import Snowflake.Proofs.Time.Instant
import Snowflake.Token.AuthToken

/-!
Expiry in whole numbers: a time to live that is too long for a delay, or ends past the last instant,
has no instant of expiry, and there is no instant at which it would be over either.
-/

namespace Snowflake

/-- The nanosecond, counted from the start of 1970, at which `ttl` seconds from `createdAt` are
over. -/
def lapse (createdAt : Instant) (ttl : UInt64) : Int :=
  createdAt.unixNanos + ttl.toNat * 1000000000

theorem expiry?_eq_some_iff {createdAt e : Instant} {ttl : Option UInt64}
    (hcreated : createdAt.IsRegular) :
    expiry? createdAt ttl = some e ↔
      ∃ s, ttl = some s ∧ e.IsRegular ∧ e.unixNanos = lapse createdAt s := by
  rcases ttl with _ | s
  · simp [expiry?]
  rcases hdelay : Delay.ofSeconds? s with _ | d
  -- A time to live that is too long for a delay is over past the last instant at the latest.
  · simp only [expiry?, hdelay, Option.some_inj, exists_eq_left', reduceCtorEq, false_iff]
    rintro ⟨he, hnanos⟩
    have hlong := Delay.ofSeconds?_eq_none_iff.mp hdelay
    have hge := createdAt.second_ge
    have hend := Instant.unixNanos_lt_endNanos he
    rw [hnanos] at hend
    simp only [lapse, Instant.unixNanos, Instant.endNanos] at hend
    omega
  · have hd := Delay.ofSeconds?_eq_some_iff.mp hdelay
    simp only [expiry?, hdelay, Instant.add?_eq_some_iff hcreated, hd, lapse, Option.some_inj,
      exists_eq_left']

theorem exists_expiry?_eq_some_iff {createdAt : Instant} {ttl : Option UInt64}
    (hcreated : createdAt.IsRegular) :
    (∃ e, expiry? createdAt ttl = some e) ↔
      ∃ s, ttl = some s ∧ lapse createdAt s < Instant.endNanos := by
  constructor
  · rintro ⟨e, he⟩
    obtain ⟨s, hs, hregular, hnanos⟩ := (expiry?_eq_some_iff hcreated).mp he
    exact ⟨s, hs, hnanos ▸ Instant.unixNanos_lt_endNanos hregular⟩
  · rintro ⟨s, hs, hlapse⟩
    have hstart : createdAt.unixNanos ≤ lapse createdAt s := by
      rw [lapse]
      omega
    obtain ⟨e, hregular, hnanos⟩ := Instant.exists_unixNanos_eq createdAt hstart hlapse
    exact ⟨e, (expiry?_eq_some_iff hcreated).mpr ⟨s, hs, hregular, hnanos⟩⟩

namespace TokenStatus

theorem ofWindow_eq_expired_iff {createdAt now : Instant} {ttl : Option UInt64} :
    ofWindow createdAt ttl now = .expired ↔ ∃ e, expiry? createdAt ttl = some e ∧ e < now := by
  rcases he : expiry? createdAt ttl with _ | e
  · simp [ofWindow, he]
  · simp [ofWindow, he]

theorem ofWindow_eq_valid_iff {createdAt now : Instant} {ttl : Option UInt64} :
    ofWindow createdAt ttl now = .valid ↔ ofWindow createdAt ttl now ≠ .expired := by
  rcases he : expiry? createdAt ttl with _ | e
  · simp [ofWindow, he]
  · simp [ofWindow, he]

theorem ofWindow_eq_valid_of_le {createdAt now later : Instant} {ttl : Option UInt64}
    (hle : now ≤ later) (hlater : ofWindow createdAt ttl later = .valid) :
    ofWindow createdAt ttl now = .valid := by
  rw [ofWindow_eq_valid_iff, Ne, ofWindow_eq_expired_iff] at *
  rintro ⟨e, he, hlt⟩
  exact hlater ⟨e, he, lt_of_lt_of_le hlt hle⟩

theorem ofWindow_eq_expired_iff_lapse_lt {createdAt now : Instant} (ttl : Option UInt64)
    (hcreated : createdAt.IsRegular) (hnow : now.IsRegular) :
    ofWindow createdAt ttl now = .expired ↔
      ∃ s, ttl = some s ∧ lapse createdAt s < now.unixNanos := by
  rw [ofWindow_eq_expired_iff]
  constructor
  · rintro ⟨e, he, hlt⟩
    obtain ⟨s, hs, hregular, hnanos⟩ := (expiry?_eq_some_iff hcreated).mp he
    exact ⟨s, hs, hnanos ▸ (Instant.lt_iff_unixNanos_lt hregular hnow).mp hlt⟩
  · rintro ⟨s, hs, hlt⟩
    have hlapse := hlt.trans (Instant.unixNanos_lt_endNanos hnow)
    obtain ⟨e, he⟩ := (exists_expiry?_eq_some_iff hcreated).mpr ⟨s, hs, hlapse⟩
    obtain ⟨s', hs', hregular, hnanos⟩ := (expiry?_eq_some_iff hcreated).mp he
    obtain rfl : s = s' := Option.some_inj.mp (hs.symm.trans hs')
    exact ⟨e, he, (Instant.lt_iff_unixNanos_lt hregular hnow).mpr (hnanos ▸ hlt)⟩

theorem ofWindow_exact {createdAt now : Instant} (ttl : Option UInt64)
    (hcreated : createdAt.IsRegular) (hnow : now.IsRegular) :
    (ofWindow createdAt ttl now = .expired ↔
        ∃ s, ttl = some s ∧ lapse createdAt s < now.unixNanos) ∧
      (ofWindow createdAt ttl now = .valid ↔
        ¬ ∃ s, ttl = some s ∧ lapse createdAt s < now.unixNanos) ∧
      (∀ e, expiry? createdAt ttl = some e ↔
        ∃ s, ttl = some s ∧ e.IsRegular ∧ e.unixNanos = lapse createdAt s) ∧
      ((∃ e, expiry? createdAt ttl = some e) ↔
        ∃ s, ttl = some s ∧ lapse createdAt s < 8210266876800 * 1000000000) ∧
      (∀ e, expiry? createdAt ttl = some e →
        ofWindow createdAt ttl e = .valid ∧
          ∀ later, e < later → ofWindow createdAt ttl later = .expired) ∧
      ∀ secret user, let t : AuthToken := ⟨secret, user, createdAt, ttl⟩
        t.validate now = ofWindow createdAt ttl now ∧ t.expiresAt? = expiry? createdAt ttl := by
  have hexpired := ofWindow_eq_expired_iff_lapse_lt ttl hcreated hnow
  refine ⟨hexpired, ?_, fun e => expiry?_eq_some_iff hcreated,
    exists_expiry?_eq_some_iff hcreated, ?_, fun secret user => ⟨rfl, rfl⟩⟩
  · rw [ofWindow_eq_valid_iff, Ne, hexpired]
  · intro e he
    constructor
    · rw [ofWindow_eq_valid_iff, Ne, ofWindow_eq_expired_iff]
      rintro ⟨e', he', hlt⟩
      obtain rfl : e = e' := Option.some_inj.mp (he.symm.trans he')
      rw [Instant.lt_def] at hlt
      omega
    · intro later hlt
      exact ofWindow_eq_expired_iff.mpr ⟨e, he, hlt⟩

theorem ofWindow_exact_at_last :
    Instant.beforeLast.IsRegular ∧ Instant.last.IsRegular ∧
      ofWindow .beforeLast (some 0) .last = .expired ∧
      expiry? .beforeLast (some 1) = some .last ∧
      ofWindow .beforeLast (some 1) .last = .valid ∧ expiry? .beforeLast (some 2) = none := by
  have hbefore : Instant.beforeLast.IsRegular := by decide
  have hlast : Instant.last.IsRegular := by decide
  obtain ⟨hexpired, -⟩ := ofWindow_exact (some 0) hbefore hlast
  obtain ⟨-, -, hexpiry, -, hvalid, -⟩ := ofWindow_exact (some 1) hbefore hlast
  obtain ⟨-, -, -, hnone, -⟩ := ofWindow_exact (some 2) hbefore hlast
  have hsome := (hexpiry .last).mpr ⟨1, rfl, hlast, by decide⟩
  refine ⟨hbefore, hlast, hexpired.mpr ⟨0, rfl, by decide⟩, hsome, (hvalid _ hsome).1, ?_⟩
  apply Option.eq_none_iff_forall_ne_some.mpr
  intro e he
  obtain ⟨s, hs, hlapse⟩ := hnone.mp ⟨e, he⟩
  cases hs
  exact absurd hlapse (by decide)

end TokenStatus

namespace AuthToken

variable (t : AuthToken)

theorem validate_eq_valid_iff (now : Instant) :
    t.validate now = .valid ↔ t.validate now ≠ .expired :=
  TokenStatus.ofWindow_eq_valid_iff

theorem validate_cases (now : Instant) : t.validate now = .valid ∨ t.validate now = .expired := by
  by_cases hexpired : t.validate now = .expired
  · exact .inr hexpired
  · exact .inl ((t.validate_eq_valid_iff now).mpr hexpired)

theorem validate_max_eq_valid_iff (a b : Instant) :
    t.validate (max a b) = .valid ↔ t.validate a = .valid ∧ t.validate b = .valid := by
  constructor
  · intro hmax
    exact ⟨TokenStatus.ofWindow_eq_valid_of_le (le_max_left a b) hmax,
      TokenStatus.ofWindow_eq_valid_of_le (le_max_right a b) hmax⟩
  · rintro ⟨ha, hb⟩
    rcases max_choice a b with hmax | hmax
    · rwa [hmax]
    · rwa [hmax]

end AuthToken

end Snowflake
