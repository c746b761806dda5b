import Reconcile.Conflict.Detection
import Reconcile.Digest.Sha256
import Reconcile.Source.Declarations

/-!
Reading outlines as settings ask for it; texts are told apart by their digests.
-/

namespace Reconcile.Settings

variable {ν : Type}

def reader (settings : Settings ν) : Outline.Reader String :=
  ⟨Digest.ofText, Outline.read?, settings.reading.isEnabled⟩

def detector (settings : Settings ν) : Detector String :=
  ⟨settings.reader, settings.detection.highSeverityLines⟩

end Reconcile.Settings
