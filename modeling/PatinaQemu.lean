import PatinaQemu.Python.Text
import PatinaQemu.Python.Path
import PatinaQemu.Builder.Basic
import PatinaQemu.Builder.Run
import PatinaQemu.Builder.Args
import PatinaQemu.Builder.OptionValue
import PatinaQemu.Builder.Declarations
import PatinaQemu.Builder.Flash
import PatinaQemu.Builder.Ids
import PatinaQemu.Builder.Smbios
import PatinaQemu.Builder.EmptyInputs
import PatinaQemu.Builder.UsbCounter
import PatinaQemu.Builder.Failure
import PatinaQemu.Runner.Version
import PatinaQemu.Runner.QemuRunner
import PatinaQemu.Runner.Launch
import PatinaQemu.Script.ConfigureSettings
import PatinaQemu.Script.Main
import PatinaQemu.Script.Errors
import PatinaQemu.Script.Images
import PatinaQemu.Script.Commands
