import VolumeAgent.Host.Local
import VolumeAgent.Main
import VolumeAgent.Mount.Helper
import VolumeAgent.Proofs.Path.Walk
import VolumeAgent.Proofs.Path.Embedding
import VolumeAgent.Proofs.Service.Clearing
import VolumeAgent.Proofs.Service.Concurrency
import VolumeAgent.Proofs.Service.Exclusion
import VolumeAgent.Proofs.Service.Footprint
import VolumeAgent.Proofs.Service.Ledger
import VolumeAgent.Proofs.Service.Removal
import VolumeAgent.Proofs.Service.Repetition
import VolumeAgent.Proofs.Service.Undoing
import VolumeAgent.Proofs.Mount.Causes
import VolumeAgent.Proofs.Volume.Descriptor
import VolumeAgent.Proofs.Service.Validation
import VolumeAgent.Proofs.Service.Sources
import VolumeAgent.Proofs.Routine.History
import VolumeAgent.Proofs.Service.Overlap
import VolumeAgent.Proofs.Mount.Listing
import VolumeAgent.Proofs.Mount.Helper
import VolumeAgent.Proofs.Mount.Verification
import VolumeAgent.Proofs.Service.ReadOnly
import VolumeAgent.Proofs.Service.Arguments
import VolumeAgent.Proofs.Mount.Forcing
import VolumeAgent.Proofs.Mount.Scope
import VolumeAgent.Proofs.Volume.Template
import VolumeAgent.Proofs.Volume.Relevance
import VolumeAgent.Proofs.Service.MountOptions
import VolumeAgent.Proofs.Text.Cut
import VolumeAgent.Proofs.Text.Escapes
import VolumeAgent.Proofs.Volume.Filesystem
import VolumeAgent.Proofs.Volume.Source
