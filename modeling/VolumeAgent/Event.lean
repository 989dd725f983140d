/-!
# What the agent reports as it works
-/

namespace VolumeAgent

inductive Level where
  | info
  | warn
  | error
deriving DecidableEq, Repr

inductive Event where
  | mockMountsEnabled
  | mockMount
  | contextMismatch
  | corruptedMountFound
  | mountNotListable
  | corruptedMountUnmounted
  | sourceRedirected
  | targetNotMade
  | corruptedMountCleaned
  | directoryNotListed
  | entryNotStated
  | firstUnmountFailed
  | staleInternalMount
  | internalMountLeft
  | alreadyMounted
  | published
  | unpublished
deriving DecidableEq, Repr

namespace Event

def level : Event → Level
  | targetNotMade => .error
  | alreadyMounted | published | unpublished => .info
  | _ => .warn

def message : Event → String
  | mockMountsEnabled => "Mock mounts enabled, volumes will not be mounted"
  | mockMount => "Mock mount, this is only for TESTING"
  | contextMismatch => "Volume context does not match values in volume ID"
  | corruptedMountFound => "Detected corrupted mount"
  | mountNotListable => "Mount point cannot be listed, treating as corrupted"
  | corruptedMountUnmounted => "Unmounting corrupted mount before remount"
  | sourceRedirected => "Redirecting mount source"
  | targetNotMade => "MakeDir failed on target"
  | corruptedMountCleaned => "Cleaning up corrupted mount"
  | directoryNotListed =>
    "Could not list directory, will explicitly unmount path before cleanup"
  | entryNotStated =>
    "Could not get info for entry, will explicitly unmount path before cleanup"
  | firstUnmountFailed => "Couldn't unmount"
  | staleInternalMount => "Internal mount path is already mounted, unmounting stale mount"
  | internalMountLeft => "Failed to clean up internal mount"
  | alreadyMounted => "Volume is already mounted"
  | published => "Volume published"
  | unpublished => "Volume unpublished"

end Event

def Level.name : Level → String
  | .info => "INFO"
  | .warn => "WARN"
  | .error => "ERROR"

def Event.line (e : Event) : String := e.level.name ++ " " ++ e.message

end VolumeAgent
