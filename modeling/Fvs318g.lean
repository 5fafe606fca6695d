import Fvs318g.Verif.Budget
import Fvs318g.Verif.Cleanup
import Fvs318g.Verif.CleanupChains
import Fvs318g.Verif.ConntrackLimits
import Fvs318g.Verif.DmaBusyWait
import Fvs318g.Verif.DmaDescr
import Fvs318g.Verif.DmaStart
import Fvs318g.Verif.ExpectRuns
import Fvs318g.Verif.FastBridge
import Fvs318g.Verif.FlashEnv
import Fvs318g.Verif.FlashMac
import Fvs318g.Verif.Fmg
import Fvs318g.Verif.Forward
import Fvs318g.Verif.FtpLines
import Fvs318g.Verif.Gather
import Fvs318g.Verif.Gdmac
import Fvs318g.Verif.Gpio
import Fvs318g.Verif.GpioIrq
import Fvs318g.Verif.I2c
import Fvs318g.Verif.IgmpOnly
import Fvs318g.Verif.LedConfig
import Fvs318g.Verif.Mdio
import Fvs318g.Verif.Offtime
import Fvs318g.Verif.OpenClose
import Fvs318g.Verif.PciConfig
import Fvs318g.Verif.PushButton
import Fvs318g.Verif.Qos
import Fvs318g.Verif.RtcCalls
import Fvs318g.Verif.RtcControl
import Fvs318g.Verif.SpiTxrx
import Fvs318g.Verif.SpiWrite
import Fvs318g.Verif.TagBounds
import Fvs318g.Verif.Timer
import Fvs318g.Verif.TimerSampling
import Fvs318g.Verif.Todo
import Fvs318g.Verif.Untag
import Fvs318g.Verif.Wake
import Fvs318g.Verif.WanPolling
