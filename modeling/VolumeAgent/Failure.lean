import VolumeAgent.Host.Error
import VolumeAgent.Path.Basic
import VolumeAgent.Text.Quoted

/-!
# Why a request fails

A failure is a cause with what it is about. Its class, and the status code,
diagnostic name and help text that go with the class, are read off the
cause; so is the wording, which is decided here and nowhere else.
-/

namespace VolumeAgent

open Host (IoError MountError)

inductive Status where
  | invalidArgument
  | notFound
  | failedPrecondition
  | internal
  | unimplemented
  | unavailable
deriving DecidableEq, Repr

def Status.name : Status → String
  | .invalidArgument => "INVALID_ARGUMENT"
  | .notFound => "NOT_FOUND"
  | .failedPrecondition => "FAILED_PRECONDITION"
  | .internal => "INTERNAL"
  | .unimplemented => "UNIMPLEMENTED"
  | .unavailable => "UNAVAILABLE"

/-- Classes of failures: one per status code, and bare errors of the host,
which are reported as internal. -/
inductive FailureClass where
  | coded (status : Status)
  | host
deriving DecidableEq, Repr

namespace FailureClass

def status : FailureClass → Status
  | .coded status => status
  | .host => .internal

def title : FailureClass → String
  | .coded .invalidArgument => "Invalid argument"
  | .coded .notFound => "Not found"
  | .coded .failedPrecondition => "Failed precondition"
  | .coded .internal => "Internal error"
  | .coded .unimplemented => "Operation not implemented"
  | .coded .unavailable => "Unavailable"
  | .host => "I/O error"

def diagnostic : FailureClass → String
  | .coded .invalidArgument => "lustre_csi::invalid_argument"
  | .coded .notFound => "lustre_csi::not_found"
  | .coded .failedPrecondition => "lustre_csi::failed_precondition"
  | .coded .internal => "lustre_csi::internal"
  | .coded .unimplemented => "lustre_csi::unimplemented"
  | .coded .unavailable => "lustre_csi::unavailable"
  | .host => "lustre_csi::io"

def help? : FailureClass → Option String
  | .coded .internal =>
    some "Check the node's mount table and the agent logs for the failing path"
  | _ => none

def report (c : FailureClass) (detail : String) : String := c.title ++ ": " ++ detail

end FailureClass

inductive Failure where
  | volumeIdMissing
  | targetNotProvided
  | targetMissing
  | contextMissing
  | subDirEmpty
  | serverMissing
  | contextSubDirNotStrict
  | subDirNotStrict (subDir : String)
  | statsVolumeIdEmpty
  | statsPathEmpty
  | pathGone (path : Path)
  | stillMounted (target : Path)
  | targetNotInternal (relative : String)
  | mountStateUnknown (path : Path) (cause : IoError)
  | cleanupStateUnknown (target : Path) (cause : IoError)
  | targetNotCreated (target : Path) (cause : IoError)
  | subDirNotCreated (cause : IoError)
  | notMounted (source : String) (target : Path) (cause : MountError)
  | notUnmounted (target : Path) (cause : MountError)
  | notForced (target : Path) (cause : MountError)
  | targetNotStated (target : Path) (cause : IoError)
  | targetNotRemoved (target : Path) (cause : IoError)
  | mountTargetNotRemoved (target : Path) (cause : IoError) (after : Failure)
  | staleMountNotRemoved (internal : Path) (cause : Failure)
  | targetNotUnpublished (target : Path) (cause : Failure)
  | pathNotStated (path : Path) (cause : IoError)
  | usageUnknown (cause : IoError)
  | unsupported (operation : String)
  | driverNameMissing
  | driverVersionMissing
deriving DecidableEq, Repr, Inhabited

namespace Failure

def status : Failure → Status
  | volumeIdMissing | targetNotProvided | targetMissing | contextMissing | subDirEmpty
  | serverMissing | contextSubDirNotStrict | subDirNotStrict _ | statsVolumeIdEmpty
  | statsPathEmpty => .invalidArgument
  | pathGone _ => .notFound
  | stillMounted _ => .failedPrecondition
  | unsupported _ => .unimplemented
  | driverNameMissing | driverVersionMissing => .unavailable
  | _ => .internal

/-- What went wrong, in words; a cause that is a failure itself is quoted
with its class. -/
def detail : Failure → String
  | volumeIdMissing => "Volume ID missing in request"
  | targetNotProvided => "Target path not provided"
  | targetMissing => "Target path missing in request"
  | contextMissing => "Volume context must be provided"
  | subDirEmpty => "Context sub-dir must not be empty or root if provided"
  | serverMissing => "Context mgs-ip-address must be provided"
  | contextSubDirNotStrict => "Context sub-dir must be strict subpath"
  | subDirNotStrict subDir => "sub-dir " ++ Text.quoted subDir ++ " must be strict subpath"
  | statsVolumeIdEmpty => "NodeGetVolumeStats volume ID was empty"
  | statsPathEmpty => "NodeGetVolumeStats volume path was empty"
  | pathGone path => "path " ++ path.text ++ " does not exist"
  | stillMounted target => Text.quoted target.text ++ " is still mounted after unmount"
  | targetNotInternal relative => "invalid mount path " ++ Text.quoted relative
  | mountStateUnknown path cause =>
    "could not check mount point " ++ path.text ++ ": " ++ cause.text
  | cleanupStateUnknown target cause =>
    "could not check mount point " ++ Text.quoted target.text ++ ": " ++ cause.text
  | targetNotCreated target cause =>
    "could not create mount target " ++ Text.quoted target.text ++ ": " ++ cause.text
  | subDirNotCreated cause => "failed to make subdirectory: " ++ cause.text
  | notMounted source target cause =>
    "Could not mount " ++ Text.quoted source ++ " at " ++ Text.quoted target.text ++ ": "
      ++ cause.text
  | notUnmounted target cause =>
    "Unmount of " ++ Text.quoted target.text ++ " failed: " ++ cause.text
  | notForced target cause =>
    "Forced unmount of " ++ Text.quoted target.text ++ " failed: " ++ cause.text
  | targetNotStated target cause =>
    "failed to stat " ++ Text.quoted target.text ++ ": " ++ cause.text
  | targetNotRemoved target cause =>
    "failed to remove " ++ Text.quoted target.text ++ ": " ++ cause.text
  | mountTargetNotRemoved target cause after =>
    "Could not remove mount target " ++ Text.quoted target.text ++ ": " ++ cause.text
      ++ " (after: " ++ (FailureClass.coded after.status).report after.detail ++ ")"
  | staleMountNotRemoved internal cause =>
    "Could not unmount existing volume at " ++ Text.quoted internal.text ++ ": "
      ++ (FailureClass.coded cause.status).report cause.detail
  | targetNotUnpublished target cause =>
    "failed to unmount target " ++ Text.quoted target.text ++ ": "
      ++ (FailureClass.coded cause.status).report cause.detail
  | pathNotStated path cause => "failed to stat file " ++ path.text ++ ": " ++ cause.text
  | usageUnknown cause => "failed to get metrics: " ++ cause.text
  | unsupported operation => operation
  | driverNameMissing => "Driver name not configured"
  | driverVersionMissing => "Driver is missing version"

def kind (f : Failure) : FailureClass := .coded f.status

def message (f : Failure) : String := f.kind.report f.detail

end Failure

end VolumeAgent
