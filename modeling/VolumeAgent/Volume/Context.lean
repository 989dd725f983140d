import VolumeAgent.Text.Lowercase

/-!
# Volume context

Named values that come with a request. Names are compared in lower case;
where two names differ only in case, the later entry is used.
-/

namespace VolumeAgent.Volume

structure Context where
  /-- Names in lower case, latest entry first. -/
  entries : List (String × String)
deriving DecidableEq, Repr

namespace Context

def ofList (pairs : List (String × String)) : Context :=
  ⟨(pairs.map fun (name, value) => (Text.lowercase name, value)).reverse⟩

def get? (context : Context) (name : String) : Option String :=
  context.entries.lookup (Text.lowercase name)

end Context

def serverKey : String := "mgs-ip-address"

/-- The directory of the filesystem to publish, if not its root. -/
def subDirKey : String := "sub-dir"

/-- A word of a sub-directory template and the name of the value that
replaces it. -/
structure Placeholder where
  token : String
  source : String
deriving DecidableEq, Repr

def placeholders : List Placeholder :=
  [⟨"$\x7bpod.metadata.name\x7d", "csi.storage.k8s.io/pod.name"⟩,
   ⟨"$\x7bpod.metadata.namespace\x7d", "csi.storage.k8s.io/pod.namespace"⟩,
   ⟨"$\x7bpod.metadata.uid\x7d", "csi.storage.k8s.io/pod.uid"⟩,
   ⟨"$\x7bserviceAccount.metadata.name\x7d", "csi.storage.k8s.io/serviceaccount.name"⟩,
   ⟨"$\x7bpvc.metadata.name\x7d", "csi.storage.k8s.io/pvc/name"⟩,
   ⟨"$\x7bpvc.metadata.namespace\x7d", "csi.storage.k8s.io/pvc/namespace"⟩,
   ⟨"$\x7bpv.metadata.name\x7d", "csi.storage.k8s.io/pv/name"⟩]

end VolumeAgent.Volume
