import Snowflake.Json.Config
import Snowflake.Proofs.Generator.Setting
import Snowflake.Proofs.Json.Object

/-!
Configurations from maps. A map is read exactly if each of its members is a setting of a field that
no other member sets, and then the settings are made in the default configuration.
-/

namespace Snowflake

open Json Layout Reader

namespace SlotId

variable {part : SlotPart}

theorem ofWord_eq_ok_iff {w : UInt64} {s : SlotId part} : ofWord w = .ok s ↔ w.toNat = s.toNat := by
  rw [ofWord]
  constructor
  · intro h
    split at h
    · cases h
      rfl
    · cases h
  · intro h
    rw [dif_pos (h ▸ s.toNat_lt), Except.ok.injEq, ← toNat_inj]
    exact h

theorem ofHead_eq_ok_iff {head : Head} {s : SlotId part} :
    ofHead head = .ok s ↔ head = .number (.integer s.toNat) := by
  have hofByte {b : UInt8} : ofByte b = .ok s ↔ b.toNat = s.toNat := by
    rw [ofByte, ofWord_eq_ok_iff, UInt8.toNat_toUInt64]
  simp only [ofHead, bind_eq_ok_iff, Json.Scalar.byte_eq_ok_iff, mapError_eq_ok_iff, hofByte]
  constructor
  · rintro ⟨b, rfl, hb⟩
    rw [hb]
  · rintro rfl
    have hlt : s.toNat < UInt8.size := Nat.lt_trans s.toNat_lt (by decide)
    have hb := UInt8.toNat_ofNat_of_lt' hlt
    exact ⟨UInt8.ofNat s.toNat, by rw [hb], hb⟩

end SlotId

namespace Config

namespace Setting

/-- The member of a map that makes the setting. -/
def member (s : Setting) : Member :=
  (s.key, Decimal.digits s.number)

/-- The field of a draft that is set. -/
def field : Setting → RecordField Draft
  | worker _ => Draft.workerField
  | process _ => Draft.processField
  | maxSkew _ => Draft.maxSkewField
  | waitTimeout _ => Draft.waitTimeoutField

theorem member_injective : Function.Injective member := by
  intro s t h
  have hkey : s.key = t.key := congrArg Prod.fst h
  have hnumber : s.number = t.number := Decimal.digits_injective (congrArg Prod.snd h)
  cases s <;> cases t <;> simp only [key, String.reduceEq] at hkey
  · exact congrArg worker (SlotId.toNat_inj.mp hnumber)
  · exact congrArg process (SlotId.toNat_inj.mp hnumber)
  · exact congrArg maxSkew (UInt64.toNat_inj.mp hnumber)
  · exact congrArg waitTimeout (UInt64.toNat_inj.mp hnumber)

theorem field_name (s : Setting) : s.field.name = s.key := by
  cases s <;> rfl

theorem field?_key (s : Setting) : layout.field? s.key = some s.field := by
  cases s <;> rfl

end Setting

namespace Draft

def give (d : Draft) : Setting → Draft
  | .worker id => { d with worker := some id }
  | .process id => { d with process := some id }
  | .maxSkew millis => { d with maxSkew := some (.ofMillis millis) }
  | .waitTimeout millis => { d with waitTimeout := some (clampWait (.ofMillis millis)) }

theorem isSet_give (d : Draft) (s t : Setting) :
    t.field.isSet (d.give s) = false ↔ s.key ≠ t.key ∧ t.field.isSet d = false := by
  cases s <;> cases t <;> simp [give, Setting.field, Setting.key, workerField, processField,
    maxSkewField, waitTimeoutField]

theorem toConfig_give (d : Draft) (s : Setting) : (d.give s).toConfig = s.apply d.toConfig := by
  cases s with
  | worker id | process id | maxSkew millis => rfl
  | waitTimeout millis =>
      -- Said for any span: the kernel would compute with the milliseconds.
      have hspan (wait : Span) :
          ({ d with waitTimeout := some (clampWait wait) } : Draft).toConfig =
            d.toConfig.withWaitTimeout wait := rfl
      exact hspan (.ofMillis millis)

theorem toConfig_foldl_give (d : Draft) (settings : List Setting) :
    (settings.foldl give d).toConfig = d.toConfig.withSettings settings := by
  induction settings generalizing d with
  | nil => rfl
  | cons s settings ih =>
      rw [List.foldl_cons, ih, toConfig_give]
      rfl

/-- A field is set by the integers that are the number of one of its settings. -/
theorem set_eq_ok_iff {field : RecordField Draft} (hfield : field ∈ layout.fields) {head : Head}
    {d d' : Draft} :
    field.set head d = .ok d' ↔
      ∃ s : Setting, s.field = field ∧ head = .number (.integer s.number) ∧ d' = d.give s := by
  constructor
  · intro h
    have hfields : field = workerField ∨ field = processField ∨ field = maxSkewField ∨
        field = waitTimeoutField := by
      simpa [layout] using hfield
    rcases hfields with rfl | rfl | rfl | rfl
    all_goals
      obtain ⟨x, hx, hd⟩ := bind_eq_ok_iff.mp h
      cases hd
    · exact ⟨.worker x, rfl, SlotId.ofHead_eq_ok_iff.mp hx, rfl⟩
    · exact ⟨.process x, rfl, SlotId.ofHead_eq_ok_iff.mp hx, rfl⟩
    · exact ⟨.maxSkew x, rfl, Json.Scalar.word_eq_ok_iff.mp hx, rfl⟩
    · exact ⟨.waitTimeout x, rfl, Json.Scalar.word_eq_ok_iff.mp hx, rfl⟩
  · rintro ⟨s, rfl, rfl, rfl⟩
    cases s with
    | worker x => exact bind_eq_ok_iff.mpr ⟨x, SlotId.ofHead_eq_ok_iff.mpr rfl, rfl⟩
    | process x => exact bind_eq_ok_iff.mpr ⟨x, SlotId.ofHead_eq_ok_iff.mpr rfl, rfl⟩
    | maxSkew x => exact bind_eq_ok_iff.mpr ⟨x, Json.Scalar.word_eq_ok_iff.mpr rfl, rfl⟩
    | waitTimeout x => exact bind_eq_ok_iff.mpr ⟨x, Json.Scalar.word_eq_ok_iff.mpr rfl, rfl⟩

end Draft

theorem layout_isStrict : layout.IsStrict := by
  refine ⟨rfl, ?_⟩
  intro field hfield head d d' hset
  obtain ⟨s, -, rfl, -⟩ := (Draft.set_eq_ok_iff hfield).mp hset
  exact ⟨nofun, nofun⟩

section Members

variable {m : Member} {ms : List Member} {d d' : Draft}

theorem takes_iff (hm : IsValue m.2) :
    layout.Takes m d d' ↔
      ∃ s : Setting, m = s.member ∧ s.field.isSet d = false ∧ d' = d.give s := by
  constructor
  · rintro ⟨field, head, hfield, hunset, hvalue, hset⟩
    obtain ⟨s, rfl, rfl, rfl⟩ :=
      (Draft.set_eq_ok_iff (List.mem_of_find?_eq_some hfield)).mp hset
    have hname : s.field.name = m.1 := by simpa using List.find?_some hfield
    refine ⟨s, Prod.ext ?_ (hm.eq_digits hvalue).1, hunset, rfl⟩
    rw [← hname, s.field_name]
    rfl
  · rintro ⟨s, rfl, hunset, rfl⟩
    refine ⟨s.field, _, s.field?_key, hunset, denotes_digits s.number_lt, ?_⟩
    exact (Draft.set_eq_ok_iff (List.mem_of_find?_eq_some s.field?_key)).mpr ⟨s, rfl, rfl, rfl⟩

/-- Members fill a draft exactly if they are settings of different fields, and of none that the
draft has. -/
theorem fills_iff (hms : ∀ m ∈ ms, IsValue m.2) :
    layout.Fills ms d d' ↔
      ∃ settings : List Setting, ms = settings.map Setting.member ∧
        (settings.map Setting.key).Nodup ∧ (∀ s ∈ settings, s.field.isSet d = false) ∧
        d' = settings.foldl Draft.give d := by
  induction ms generalizing d with
  | nil =>
      rw [fills_nil_iff]
      constructor
      · rintro rfl
        exact ⟨[], rfl, List.nodup_nil, List.forall_mem_nil _, rfl⟩
      · rintro ⟨settings, hmap, -, -, rfl⟩
        obtain rfl := List.map_eq_nil_iff.mp hmap.symm
        rfl
  | cons m ms ih =>
      rw [List.forall_mem_cons] at hms
      rw [fills_cons_iff]
      simp only [takes_iff hms.1, ih hms.2]
      constructor
      · rintro ⟨_, ⟨s, rfl, hunset, rfl⟩, settings, rfl, hnodup, hothers, rfl⟩
        have hgive (t : Setting) (ht : t ∈ settings) := (d.isSet_give s t).mp (hothers t ht)
        refine ⟨s :: settings, rfl, List.nodup_cons.mpr ⟨?_, hnodup⟩,
          List.forall_mem_cons.mpr ⟨hunset, fun t ht => (hgive t ht).2⟩, rfl⟩
        intro hmem
        obtain ⟨t, ht, heq⟩ := List.mem_map.mp hmem
        exact (hgive t ht).1 heq.symm
      · rintro ⟨settings, hmap, hnodup, hunset, rfl⟩
        obtain ⟨s, settings, rfl, rfl, rfl⟩ := List.map_eq_cons_iff.mp hmap.symm
        rw [List.map_cons, List.nodup_cons] at hnodup
        rw [List.forall_mem_cons] at hunset
        refine ⟨_, ⟨s, rfl, hunset.1, rfl⟩, settings, rfl, hnodup.2, ?_, rfl⟩
        intro t ht
        refine (d.isSet_give s t).mpr ⟨?_, hunset.2 t ht⟩
        intro heq
        exact hnodup.1 (heq ▸ List.mem_map_of_mem ht)

theorem ofJson_eq_ok_iff {doc : String} {c : Config} (h : IsObject doc ms) :
    ofJson doc = .ok c ↔
      ∃ settings : List Setting, ms = settings.map Setting.member ∧
        (settings.map Setting.key).Nodup ∧ c = default.withSettings settings := by
  have hunset (s : Setting) : s.field.isSet layout.blank = false := by cases s <;> rfl
  have hfinish (settings : List Setting) :
      layout.finish (settings.foldl Draft.give layout.blank) =
        .ok (default.withSettings settings) :=
    congrArg Except.ok (Draft.toConfig_foldl_give layout.blank settings)
  rw [ofJson, layout_isStrict.document_eq_ok_iff h]
  simp only [fills_iff h.isValue, hunset, implies_true, true_and]
  constructor
  · rintro ⟨_, ⟨settings, hmap, hnodup, rfl⟩, hc⟩
    rw [hfinish] at hc
    exact ⟨settings, hmap, hnodup, (Except.ok.inj hc).symm⟩
  · rintro ⟨settings, hmap, hnodup, rfl⟩
    exact ⟨_, ⟨settings, hmap, hnodup, rfl⟩, hfinish settings⟩

end Members

/-- Members that a configuration may have. A number is an integer in the range of its field, written
with its digits; the spellings `-0` and `3.0` stand for numbers that are no integers. -/
def Admits (m : Member) : Prop :=
  ∃ n : Nat, m.2 = Decimal.digits n ∧
    ((m.1 = "worker_id" ∨ m.1 = "process_id") ∧ n ≤ 31 ∨
      (m.1 = "max_clock_skew" ∨ m.1 = "wait_timeout") ∧ n < 0x10000000000000000)

theorem Setting.admits_member (s : Setting) : Admits s.member := by
  refine ⟨s.number, rfl, ?_⟩
  cases s with
  | worker id => exact .inl ⟨.inl rfl, Nat.le_of_lt_succ id.toNat_lt⟩
  | process id => exact .inl ⟨.inr rfl, Nat.le_of_lt_succ id.toNat_lt⟩
  | maxSkew millis => exact .inr ⟨.inl rfl, millis.toNat_lt⟩
  | waitTimeout millis => exact .inr ⟨.inr rfl, millis.toNat_lt⟩

theorem admits_iff {m : Member} : Admits m ↔ ∃ s : Setting, s.member = m := by
  constructor
  · obtain ⟨name, value⟩ := m
    rintro ⟨n, hvalue, ⟨hname, hn⟩ | ⟨hname, hn⟩⟩
    · have hlt : n < 32 := Nat.lt_succ_of_le hn
      rcases hname with rfl | rfl
      · exact ⟨.worker ⟨⟨n, hlt⟩⟩, Prod.ext rfl hvalue.symm⟩
      · exact ⟨.process ⟨⟨n, hlt⟩⟩, Prod.ext rfl hvalue.symm⟩
    · have hword : Decimal.digits (UInt64.ofNat n).toNat = value := by
        rw [UInt64.toNat_ofNat_of_lt' hn]
        exact hvalue.symm
      rcases hname with rfl | rfl
      · exact ⟨.maxSkew (.ofNat n), Prod.ext rfl hword⟩
      · exact ⟨.waitTimeout (.ofNat n), Prod.ext rfl hword⟩
  · rintro ⟨s, rfl⟩
    exact s.admits_member

theorem le_of_admits_slot {name : String} {n : Nat}
    (hname : name = "worker_id" ∨ name = "process_id")
    (h : Admits (name, Decimal.digits n)) : n ≤ 31 := by
  obtain ⟨n', hn, ⟨-, hle⟩ | ⟨hduration, -⟩⟩ := h <;> dsimp only at *
  · rwa [Decimal.digits_injective hn]
  · rcases hname with rfl | rfl <;> simp at hduration

section Members

variable {doc : String} {ms : List Member}

theorem exists_ofJson_iff (h : IsObject doc ms) :
    (∃ c, ofJson doc = .ok c) ↔ (ms.map Prod.fst).Nodup ∧ ∀ m ∈ ms, Admits m := by
  have hkeys (settings : List Setting) :
      (settings.map Setting.member).map Prod.fst = settings.map Setting.key := List.map_map
  simp only [ofJson_eq_ok_iff h]
  constructor
  · rintro ⟨c, settings, rfl, hnodup, -⟩
    rw [hkeys]
    exact ⟨hnodup, List.forall_mem_map.mpr fun s _ => s.admits_member⟩
  · rintro ⟨hnodup, hadmits⟩
    have hrange : ms ∈ Set.range (List.map Setting.member) := by
      rw [Set.range_list_map]
      exact fun m hm => admits_iff.mp (hadmits m hm)
    obtain ⟨settings, rfl⟩ := hrange
    rw [hkeys] at hnodup
    exact ⟨_, settings, rfl, hnodup, rfl⟩

/-- The members may stand in any order. -/
theorem ofJson_eq_ok_iff_perm {c : Config} (h : IsObject doc ms) :
    ofJson doc = .ok c ↔
      ∃ settings : List Setting, ms.Perm (settings.map Setting.member) ∧
        (settings.map Setting.key).Nodup ∧ c = default.withSettings settings := by
  rw [ofJson_eq_ok_iff h]
  constructor
  · rintro ⟨settings, rfl, hnodup, rfl⟩
    exact ⟨settings, List.Perm.refl _, hnodup, rfl⟩
  · rintro ⟨settings, hperm, hnodup, rfl⟩
    have hall : List.Forall₂ (fun m s => m = Setting.member s) (settings.map Setting.member)
        settings := by
      rw [List.forall₂_map_left_iff, List.forall₂_same]
      exact fun s _ => rfl
    obtain ⟨settings', hms, hsettings⟩ := List.perm_comp_forall₂ hperm hall
    rw [← List.forall₂_map_right_iff, List.forall₂_eq_eq_eq] at hms
    have hnodup' := (hsettings.map Setting.key).nodup_iff.mpr hnodup
    exact ⟨settings', hms, hnodup', withSettings_perm hsettings.symm hnodup default⟩

/-- A key that is unknown or stands there twice is always an error. -/
theorem exists_ofJson_eq_error (h : IsObject doc ms)
    (hkeys : ¬ (ms.map Prod.fst).Nodup ∨
      ∃ m ∈ ms, m.1 ∉ ["worker_id", "process_id", "max_clock_skew", "wait_timeout"]) :
    ∃ e, ofJson doc = .error e := by
  rcases hread : ofJson doc with e | c
  · exact ⟨e, rfl⟩
  obtain ⟨hnodup, hadmits⟩ := (exists_ofJson_iff h).mp ⟨c, hread⟩
  rcases hkeys with hrepeated | ⟨m, hm, hunknown⟩
  · exact absurd hnodup hrepeated
  · obtain ⟨s, rfl⟩ := admits_iff.mp (hadmits m hm)
    cases s <;> exact absurd hunknown (by simp [Setting.member, Setting.key])

end Members

end Config

end Snowflake
