import BuildAlign.Proofs.Version.Operations
import BuildAlign.Proofs.Versioning.Rebuild

/-!
Rebuilding with a fixed suffix. What a policy appends once is found again when the result is
rebuilt, so a suffix does not pile up, however often the version is rebuilt.
-/

namespace BuildAlign.VersionPolicy

open Version

/-- A policy that appends a plain suffix to the present version. -/
structure AppendsPlain (policy : VersionPolicy) (suffix : String) : Prop where
  no_override : policy.override = none
  fixed : policy.suffix = .fixed suffix
  plain : IsPlainSuffix suffix.toList

variable {policy : VersionPolicy} {suffix : String}

theorem suffixed_settleSnapshot {suffix : List Char} {v : Version} (hv : Suffixed suffix v) :
    Suffixed suffix (policy.settleSnapshot v) := by
  rw [settleSnapshot]
  split
  · exact hv
  · exact hv.dropSnapshot

/-- A snapshot marker that is settled stays as it is. -/
theorem settleSnapshot_of_settled {v w : Version}
    (h : w.snapshot = (policy.settleSnapshot v).snapshot) : policy.settleSnapshot w = w := by
  rw [settleSnapshot] at h ⊢
  split
  · rfl
  · rename_i hdrop
    rw [if_neg hdrop] at h
    have hnone : w.snapshot = none := h
    rw [setSnapshot, if_neg Bool.false_ne_true, ← hnone]

namespace AppendsPlain

variable (h : policy.AppendsPlain suffix)

include h

/-- A policy of this kind counts nothing, so published versions do not matter. -/
theorem rebuild_eq (present : String) (published : List String) :
    policy.rebuild present published =
      policy.settleSnapshot ((parse present).appendSuffix suffix.toList) := by
  rw [rebuild, start, h.no_override, h.fixed]
  rfl

/-- Rebuilding what is read back gives the same text. -/
theorem render_rebuild_of_suffixed {v : Version} (hsuffixed : Suffixed suffix.toList v)
    (hlegible : v.Legible) (hsettled : policy.settleSnapshot v = v) (published : List String) :
    (policy.rebuild v.render published).render = v.render := by
  have hsnapshot : (v.written.appendSuffix suffix.toList).snapshot =
      (policy.settleSnapshot v).snapshot := by
    rw [snapshot_appendSuffix, hsettled]
    rfl
  rw [h.rebuild_eq, hlegible.parse_render, settleSnapshot_of_settled hsnapshot, render,
    hsuffixed.chars_appendSuffix hlegible, render]

end AppendsPlain

/-- A policy that appends `bar-07` and keeps the snapshot marker. -/
def barPolicy : VersionPolicy where
  suffix := .fixed "bar-07"
  keepSnapshot := true

theorem appendsPlain_barPolicy : barPolicy.AppendsPlain "bar-07" where
  no_override := rfl
  fixed := rfl
  plain := isPlainSuffix_bar

def rebuiltArtifact : Artifact where
  group := "org.a"
  name := "lib"

end BuildAlign.VersionPolicy
