import VolumeAgent.Options
import VolumeAgent.Text.Blank
import VolumeAgent.Yaml.Scalar

/-!
# Version report
-/

namespace VolumeAgent

structure VersionInfo where
  driverName : String
  driverVersion : String
  platform : String
deriving DecidableEq, Repr

namespace VersionInfo

def nameKey : String := "Driver Name"
def versionKey : String := "Driver Version"
def platformKey : String := "Platform"

def ofName (driverName : String) : VersionInfo :=
  ⟨driverName, agentVersion, VolumeAgent.platform⟩

def toYaml (v : VersionInfo) : String :=
  Text.trimBlank <|
    nameKey ++ ": " ++ Yaml.scalarLine v.driverName
      ++ versionKey ++ ": " ++ Yaml.scalarLine v.driverVersion
      ++ platformKey ++ ": " ++ Yaml.scalarLine v.platform

end VersionInfo

end VolumeAgent
