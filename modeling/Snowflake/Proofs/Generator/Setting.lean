import Snowflake.Proofs.Generator.Waiting

/-!
Settings one by one. A configuration is the default one with some of its fields set; settings of
different fields may be made in any order.
-/

namespace Snowflake.Config

/-- One field of a configuration and its value. Lengths of time are in milliseconds. -/
inductive Setting where
  | worker (id : WorkerId)
  | process (id : ProcessId)
  | maxSkew (millis : UInt64)
  | waitTimeout (millis : UInt64)
  deriving DecidableEq

namespace Setting

def key : Setting → String
  | worker _ => "worker_id"
  | process _ => "process_id"
  | maxSkew _ => "max_clock_skew"
  | waitTimeout _ => "wait_timeout"

def number : Setting → Nat
  | worker id => id.toNat
  | process id => id.toNat
  | maxSkew millis => millis.toNat
  | waitTimeout millis => millis.toNat

def apply (c : Config) : Setting → Config
  | worker id => c.withWorker id
  | process id => c.withProcess id
  | maxSkew millis => c.withMaxSkew (.ofMillis millis)
  | waitTimeout millis => c.withWaitTimeout (.ofMillis millis)

theorem number_lt (s : Setting) : s.number < 0x10000000000000000 := by
  cases s with
  | worker id | process id =>
      have hid := id.toNat_lt
      rw [number]
      omega
  | maxSkew millis | waitTimeout millis =>
      rw [number]
      exact millis.toNat_lt

theorem apply_comm {s t : Setting} (h : s.key ≠ t.key) (c : Config) :
    apply (apply c s) t = apply (apply c t) s := by
  cases s <;> cases t <;> first | exact absurd rfl h | rfl

theorem apply_apply (s : Setting) (c : Config) : apply (apply c s) s = apply c s := by
  cases s with
  | worker id | process id | maxSkew millis => rfl
  | waitTimeout millis =>
      -- Said for any span: the kernel would compute with the milliseconds.
      have hspan (wait : Span) :
          (c.withWaitTimeout wait).withWaitTimeout wait = c.withWaitTimeout wait := rfl
      exact hspan (.ofMillis millis)

end Setting

/-- The configuration after some settings, the first of them first. -/
def withSettings (c : Config) (settings : List Setting) : Config :=
  settings.foldl Setting.apply c

variable {settings settings' : List Setting}

theorem withSettings_perm (h : settings.Perm settings')
    (hnodup : (settings.map Setting.key).Nodup) (c : Config) :
    c.withSettings settings = c.withSettings settings' := by
  induction h generalizing c with
  | nil => rfl
  | cons s _ ih => exact ih (List.nodup_cons.mp hnodup).2 (s.apply c)
  | swap s t settings =>
      have hne : t.key ≠ s.key := by
        intro heq
        apply (List.nodup_cons.mp hnodup).1
        rw [List.map_cons, heq]
        exact List.mem_cons_self
      simp only [withSettings, List.foldl_cons, Setting.apply_comm hne]
  | trans h₁ _ ih₁ ih₂ =>
      exact (ih₁ hnodup c).trans (ih₂ ((h₁.map Setting.key).nodup_iff.mp hnodup) c)

/-- A setting made among others of other fields holds in the end. -/
theorem apply_withSettings {s : Setting} (hs : s ∈ settings)
    (hnodup : (settings.map Setting.key).Nodup) (c : Config) :
    s.apply (c.withSettings settings) = c.withSettings settings := by
  have hperm : settings.Perm (settings.erase s ++ [s]) :=
    (List.perm_cons_erase hs).trans (List.perm_append_singleton s _).symm
  rw [withSettings_perm hperm hnodup, withSettings, List.foldl_append, List.foldl_cons,
    List.foldl_nil, Setting.apply_apply]

end Snowflake.Config
