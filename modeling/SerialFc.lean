import SerialFc.Interface.ClockPath
import SerialFc.Interface.UserCopy
import SerialFc.Interface.WriteBack
import SerialFc.Interface.StoredText
import SerialFc.Interface.Concurrent
import SerialFc.Interface.Defaults
import SerialFc.Lifecycle.Uniqueness
import SerialFc.Lifecycle.PortNames
import SerialFc.Fscc.StagingArray
import SerialFc.Exar.BaudReadBack
import SerialFc.Lib.DividerRounding
import SerialFc.Lib.Ics30703.Fields
import SerialFc.Lib.Ics30703.Accuracy
import SerialFc.Driver.Calls
import SerialFc.Fscc.ClockRuns
import SerialFc.Exar.ClockRuns
import SerialFc.Abstract.Tasks
import SerialFc.Abstract.Observers
import SerialFc.Abstract.Builds
import SerialFc.Abstract.Pins
import SerialFc.Lifecycle.OpenFiles
import SerialFc.Lifecycle.Creation
