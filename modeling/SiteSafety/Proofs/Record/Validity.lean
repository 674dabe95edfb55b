import SiteSafety.Proofs.Float.Word
import SiteSafety.Proofs.Record.RoundTrip
import SiteSafety.Proofs.Verdict

namespace SiteSafety.Record

open Binary64 (toFloat)

variable {state : SiteState Binary64} {residual : Residual Binary64} {t : Tolerances}

def unchecked (state : SiteState Binary64) (residual : Residual Binary64) (t : Tolerances) : Record :=
  { context := state.context
    conservationOk := (ConservationVerdict.ofResidual (residual.map toFloat) t).passed
    reservedFlags := .replicate 2 0
    concentrations := state.concentrations
    thresholds := state.thresholds
    hydraulics := state.hydraulics
    indices := state.indices
    residual := residual
    reserved := .replicate 16 0 }

theorem ofState_eq_ok {r : Record} : ofState state residual t = .ok r ↔
    (state.map toFloat).validate = .ok () ∧ t.validate = .ok () ∧ r = unchecked state residual t := by
  rw [ofState, bind_eq_ok]
  constructor
  · rintro ⟨⟨⟩, hstate, h⟩
    obtain ⟨⟨⟩, ht, h⟩ := bind_eq_ok.mp h
    exact ⟨hstate, ht, (Except.ok.inj h).symm⟩
  · rintro ⟨hstate, ht, rfl⟩
    exact ⟨(), hstate, bind_eq_ok.mpr ⟨(), ht, rfl⟩⟩

theorem ofState_eq_error {e : Violation} : ofState state residual t = .error e ↔
    (state.map toFloat).validate = .error e ∨
      (state.map toFloat).validate = .ok () ∧ t.validate = .error e := by
  rw [ofState, bind_eq_error]
  refine or_congr Iff.rfl ⟨?_, ?_⟩
  · rintro ⟨⟨⟩, hstate, h⟩
    obtain ht | ⟨_, _, h⟩ := bind_eq_error.mp h
    · exact ⟨hstate, ht⟩
    · cases h
  · rintro ⟨hstate, ht⟩
    exact ⟨(), hstate, bind_eq_error.mpr (.inl ht)⟩

theorem exists_ofState_iff : (∃ r, ofState state residual t = .ok r) ↔
    (state.map toFloat).validate = .ok () ∧ t.validate = .ok () := by
  constructor
  · rintro ⟨r, h⟩
    obtain ⟨hstate, ht, -⟩ := ofState_eq_ok.mp h
    exact ⟨hstate, ht⟩
  · rintro ⟨hstate, ht⟩
    exact ⟨_, ofState_eq_ok.mpr ⟨hstate, ht, rfl⟩⟩

theorem flag_unchecked_iff (ht : t.validate = .ok ()) :
    (unchecked state residual t).conservationOk = true ↔ (residual.map toFloat).Within t := by
  obtain ⟨hmass, henergy, -⟩ := Tolerances.validate_eq_ok.mp ht
  exact ConservationVerdict.passed_iff (isNaN_of_isFinite hmass) (isNaN_of_isFinite henergy)

theorem not_within_of_isNaN (h : residual.mass.IsNaN ∨ residual.energy.IsNaN) :
    ¬ (residual.map toFloat).Within t := by
  intro hwithin
  rcases h with h | h
  · exact Bool.eq_false_iff.mp hwithin.mass.1 (Binary64.isNaN_toFloat.mpr h)
  · exact Bool.eq_false_iff.mp hwithin.energy.1 (Binary64.isNaN_toFloat.mpr h)

/-- What a record says of a state, a residual and tolerances when it is made with them. -/
structure Attests (r : Record) (s : SiteState Binary64) (d : Residual Binary64) (t : Tolerances) :
    Prop where
  state : r.siteState = s
  valid : (r.siteState.map toFloat).validate = .ok ()
  residual : r.residual = d
  reservedFlags : r.reservedFlags = .replicate 2 0
  reserved : r.reserved = .replicate 16 0
  flag : r.conservationOk = conserves (d.map toFloat) t.mass t.energy
  flag_iff : r.conservationOk = true ↔ (d.map toFloat).Within t
  undefined : d.mass.IsNaN ∨ d.energy.IsNaN → r.conservationOk = false

theorem attests_unchecked (hstate : (state.map toFloat).validate = .ok ()) (ht : t.validate = .ok ()) :
    (unchecked state residual t).Attests state residual t where
  state := rfl
  valid := hstate
  residual := rfl
  reservedFlags := rfl
  reserved := rfl
  flag := ConservationVerdict.passed_ofResidual _ t
  flag_iff := flag_unchecked_iff ht
  undefined h := by
    rw [← Bool.not_eq_true, flag_unchecked_iff ht]
    exact not_within_of_isNaN h

/-- A state and tolerances that pass their checks give a record, and no others do: the first fault is
named, the state before the tolerances. Read back from the wire, whatever follows it, the record still
attests what it was made with, down to the last bit. -/
theorem ofState_attests (state : SiteState Binary64) (residual : Residual Binary64) (t : Tolerances) :
    ((∃ r, ofState state residual t = .ok r) ↔
      (state.map toFloat).validate = .ok () ∧ t.validate = .ok ()) ∧
    (∀ e, ofState state residual t = .error e ↔
      (state.map toFloat).validate = .error e ∨
        (state.map toFloat).validate = .ok () ∧ t.validate = .error e) ∧
    ∀ r, ofState state residual t = .ok r → ∀ trailing,
      ∃ r', decode (r.encode ++ trailing) = .ok r' ∧ r'.Attests state residual t := by
  refine ⟨exists_ofState_iff, fun e => ofState_eq_error, ?_⟩
  intro r h trailing
  obtain ⟨hstate, ht, rfl⟩ := ofState_eq_ok.mp h
  exact ⟨_, decode_encode _ trailing, attests_unchecked hstate ht⟩

def extremeState : SiteState Binary64 :=
  { context := .coastal
    concentrations := ⟨⟨0x7ff0000000000001⟩, ⟨0xffffffffffffffff⟩, ⟨0xfff0000000000000⟩, ⟨1⟩⟩
    thresholds := ⟨⟨0x7ff0000000000000⟩, ⟨0x7ff0000000000000⟩, ⟨1⟩, ⟨0x7fefffffffffffff⟩⟩
    hydraulics := ⟨⟨0x8000000000000000⟩, ⟨0x7ff8000000000000⟩, ⟨0xfff8000000000001⟩⟩
    indices := ⟨⟨0x7ff0000000000000⟩, ⟨0xfff8000000000000⟩, ⟨0x8000000000000000⟩⟩ }

theorem ofState_attests_extreme :
    ∃ r r', ofState extremeState ⟨.zero, ⟨0x7ff000000000beef⟩⟩ .standard = .ok r ∧
      decode (r.encode ++ [255]) = .ok r' ∧ r'.siteState = extremeState ∧ r'.conservationOk = false := by
  obtain ⟨hmade, -, hread⟩ := ofState_attests extremeState ⟨.zero, ⟨0x7ff000000000beef⟩⟩ .standard
  obtain ⟨r, hr⟩ := hmade.mpr ⟨by decide +kernel, by decide +kernel⟩
  obtain ⟨r', hr', hattests⟩ := hread r hr [255]
  exact ⟨r, r', hr, hr', hattests.state, hattests.undefined (.inr (by decide))⟩

end SiteSafety.Record
