import Mathlib.Data.List.Nodup
import SiteSafety.Proofs.Record.Canonical
import SiteSafety.Proofs.Record.Layout

namespace SiteSafety.Record

inductive Quantity where
  | concentration (c : Contaminant)
  | threshold (c : Contaminant)
  | flow
  | velocity
  | availableEnergy
  | impactDelta
  | viability
  | bioStress
  | massResidual
  | energyResidual
  deriving DecidableEq

namespace Quantity

def all : List Quantity :=
  Contaminant.all.map .concentration ++ Contaminant.all.map .threshold ++
    [ .flow, .velocity, .availableEnergy, .impactDelta, .viability, .bioStress, .massResidual,
      .energyResidual ]

theorem mem_all (q : Quantity) : q ∈ all := by
  cases q with
  | concentration c => cases c <;> decide
  | threshold c => cases c <;> decide
  | flow | velocity | availableEnergy | impactDelta | viability | bioStress | massResidual
    | energyResidual => decide

def name : Quantity → String
  | .concentration .pfbs => "c_pfbs_ng_l"
  | .concentration .eColi => "c_ecoli_mpn_100ml"
  | .concentration .tp => "c_tp_mg_l"
  | .concentration .tds => "c_tds_mg_l"
  | .threshold .pfbs => "cref_pfbs_ng_l"
  | .threshold .eColi => "cref_ecoli_mpn_100ml"
  | .threshold .tp => "cref_tp_mg_l"
  | .threshold .tds => "cref_tds_mg_l"
  | .flow => "q_m3s"
  | .velocity => "v_ms"
  | .availableEnergy => "e_avail_kwh"
  | .impactDelta => "kn_delta"
  | .viability => "cpvm_value"
  | .bioStress => "bio_stress_index"
  | .massResidual => "qr_delta_mass"
  | .energyResidual => "qr_delta_energy"

end Quantity

def quantity (r : Record) : Quantity → Binary64
  | .concentration c => r.concentrations.get c
  | .threshold c => r.thresholds.get c
  | .flow => r.hydraulics.flow
  | .velocity => r.hydraulics.velocity
  | .availableEnergy => r.hydraulics.availableEnergy
  | .impactDelta => r.indices.impactDelta
  | .viability => r.indices.viability
  | .bioStress => r.indices.bioStress
  | .massResidual => r.residual.mass
  | .energyResidual => r.residual.energy

theorem words_eq (r : Record) : r.words = Quantity.all.map r.quantity := rfl

theorem words_eq_iff {a b : Record} : a.words = b.words ↔ ∀ q, a.quantity q = b.quantity q := by
  rw [words_eq, words_eq, List.map_inj_left]
  exact ⟨fun h q => h q q.mem_all, fun h q _ => h q⟩

inductive Field where
  | context
  | conservation
  | reservedFlag (i : Fin 2)
  | word (q : Quantity)
  | reserved
  deriving DecidableEq

namespace Field

def all : List Field :=
  [.context, .conservation, .reservedFlag 0, .reservedFlag 1] ++ Quantity.all.map .word ++ [.reserved]

theorem mem_all (f : Field) : f ∈ all := by
  cases f with
  | context | conservation | reserved => decide
  | reservedFlag i => revert i; decide
  | word q =>
      have hq : Field.word q ∈ Quantity.all.map Field.word := List.mem_map_of_mem q.mem_all
      exact List.mem_append_left _ (List.mem_append_right _ hq)

def name : Field → String
  | .context => "context"
  | .conservation => "qr_ok"
  | .reservedFlag 0 => "reserved_flags1"
  | .reservedFlag 1 => "reserved_flags2"
  | .word q => q.name
  | .reserved => "reserved"

theorem name_injective : Function.Injective name := by
  intro f g h
  have hnodup : (all.map name).Nodup := by decide
  exact List.inj_on_of_nodup_map hnodup f.mem_all g.mem_all h

def width : Field → ℕ
  | .context | .conservation | .reservedFlag _ => 1
  | .word _ => 8
  | .reserved => 16

end Field

inductive Content where
  | context (c : Context)
  | flag (b : Bool)
  | byte (b : UInt8)
  | word (w : Binary64)
  | padding (bytes : Vector UInt8 16)
  deriving DecidableEq

def placeByte (n place : ℕ) : UInt8 := (n / 256 ^ place).toUInt8

def Content.bytes : Content → List UInt8
  | .context .urban => [0]
  | .context .coastal => [1]
  | .flag false => [0]
  | .flag true => [1]
  | .byte b => [b]
  | .word w => [7, 6, 5, 4, 3, 2, 1, 0].map (placeByte w.bits.toNat)
  | .padding bytes => bytes.toList

def get (r : Record) : Field → Content
  | .context => .context r.context
  | .conservation => .flag r.conservationOk
  | .reservedFlag i => .byte r.reservedFlags[i]
  | .word q => .word (r.quantity q)
  | .reserved => .padding r.reserved

theorem eq_of_get {a b : Record} (h : ∀ f, a.get f = b.get f) : a = b := by
  apply eq_of_words
  · exact Content.context.inj (h .context)
  · exact Content.flag.inj (h .conservation)
  · ext i hi
    exact congrArg UInt8.toNat (Content.byte.inj (h (.reservedFlag ⟨i, hi⟩)))
  · exact words_eq_iff.mpr fun q => Content.word.inj (h (.word q))
  · exact Content.padding.inj (h .reserved)

theorem toBytes_eq (w : Binary64) :
    w.toBytes = [7, 6, 5, 4, 3, 2, 1, 0].map (placeByte w.bits.toNat) := by
  simp only [Binary64.toBytes, placeByte, List.map_cons, List.map_nil, List.cons.injEq, and_true,
    ← UInt8.toNat_inj, UInt64.toNat_toUInt8, UInt64.toNat_shiftRight, Nat.shiftRight_eq_div_pow,
    UInt64.reduceToNat, Nat.reduceMod, UInt8.toNat_ofNat', Nat.toUInt8_eq]
  omega

theorem length_bytes (r : Record) (f : Field) : (r.get f).bytes.length = f.width := by
  cases f with
  | context => rcases r with ⟨_ | _⟩ <;> rfl
  | conservation => rcases r with ⟨_, _ | _⟩ <;> rfl
  | reservedFlag i => rfl
  | word q => rfl
  | reserved => exact r.reserved.length_toList

theorem bytes_get_inj {a b : Record} {f : Field} :
    (a.get f).bytes = (b.get f).bytes ↔ a.get f = b.get f := by
  refine ⟨fun h => ?_, congrArg Content.bytes⟩
  cases f with
  | context =>
      rcases a with ⟨_ | _⟩ <;> rcases b with ⟨_ | _⟩
      · rfl
      · cases h
      · cases h
      · rfl
  | conservation =>
      rcases a with ⟨_, _ | _⟩ <;> rcases b with ⟨_, _ | _⟩
      · rfl
      · cases h
      · cases h
      · rfl
  | reservedFlag i => exact congrArg Content.byte (List.cons.inj h).1
  | word q =>
      have hbytes : (a.quantity q).toBytes = (b.quantity q).toBytes := by
        rw [toBytes_eq, toBytes_eq]
        exact h
      rw [get, get, ← wordAt_toBytes (a.quantity q) [], hbytes, wordAt_toBytes]
  | reserved => exact congrArg Content.padding (Vector.toList_inj.mp h)

theorem reservedFlags_eq (r : Record) :
    r.reservedFlags.toList = [r.reservedFlags[0], r.reservedFlags[1]] := by
  apply List.ext_getElem
  · rw [Vector.length_toList]
    rfl
  · intro i hi _
    rw [Vector.length_toList] at hi
    rw [Vector.getElem_toList]
    match i, hi with
    | 0, _ | 1, _ => rfl

theorem encode_eq_contents (r : Record) :
    r.encode = Field.all.flatMap fun f => (r.get f).bytes := by
  have hmarks : [r.context.tag, flagByte r.conservationOk] =
      (Content.context r.context).bytes ++ (Content.flag r.conservationOk).bytes := by
    rcases r with ⟨_ | _, _ | _⟩ <;> rfl
  have hwords : r.words.flatMap Binary64.toBytes =
      (Quantity.all.map Field.word).flatMap fun f => (r.get f).bytes := by
    rw [words_eq, List.flatMap_map, List.flatMap_map]
    exact List.flatMap_congr fun q _ => toBytes_eq (r.quantity q)
  rw [encode, hmarks, hwords, reservedFlags_eq, Field.all, List.flatMap_append, List.flatMap_append]
  simp only [List.flatMap_cons, List.flatMap_nil, List.append_nil, List.append_assoc]
  rfl

def entries : List (FieldSpec × Field) := Layout.first.fields.zip Field.all

theorem map_fst_entries : entries.map Prod.fst = Layout.first.fields := rfl

theorem map_snd_entries : entries.map Prod.snd = Field.all := rfl

theorem entries_agree : ∀ e ∈ entries, e.2.name = e.1.name ∧ e.2.width = e.1.width.toNat := by
  decide

theorem tiles_first : Layout.Tiles 0 Layout.first.fields Layout.recordLength := by
  have hsum : (0 : UInt64).toNat + (Layout.first.fields.map (·.width.toNat)).sum < 2 ^ 64 := by
    decide
  have hcontiguous : Layout.contiguousFrom 0 Layout.first.fields = true := by decide
  exact (Layout.contiguousFrom_iff hsum).mp hcontiguous

variable {s : FieldSpec} {f : Field}

theorem exists_field (hs : s ∈ Layout.first.fields) : ∃ f, (s, f) ∈ entries := by
  rw [← map_fst_entries] at hs
  obtain ⟨⟨s, f⟩, he, rfl⟩ := List.mem_map.mp hs
  exact ⟨f, he⟩

theorem exists_entry (f : Field) : ∃ s, (s, f) ∈ entries := by
  have hf := f.mem_all
  rw [← map_snd_entries] at hf
  obtain ⟨⟨s, f⟩, he, rfl⟩ := List.mem_map.mp hf
  exact ⟨s, he⟩

theorem mem_fields_of_entry (h : (s, f) ∈ entries) : s ∈ Layout.first.fields := by
  rw [← map_fst_entries]
  exact List.mem_map_of_mem h

theorem mem_entries (hs : s ∈ Layout.first.fields) (hname : f.name = s.name) : (s, f) ∈ entries := by
  obtain ⟨g, hg⟩ := exists_field hs
  have hfg : f = g := Field.name_injective (hname.trans (entries_agree _ hg).1.symm)
  rwa [hfg]

theorem eq_of_entries {s' : FieldSpec} (h : (s, f) ∈ entries) (h' : (s', f) ∈ entries) : s = s' := by
  have hnodup : (entries.map Prod.snd).Nodup := by decide
  exact congrArg Prod.fst (List.inj_on_of_nodup_map hnodup h h' rfl)

theorem slice_encode (r : Record) (h : (s, f) ∈ entries) : s.slice r.encode = (r.get f).bytes := by
  have hencode : r.encode = [] ++ entries.flatMap fun e => (r.get e.2).bytes := by
    rw [encode_eq_contents, ← map_snd_entries, List.flatMap_map, List.nil_append]
  have hwidth : ∀ e ∈ entries, (r.get e.2).bytes.length = e.1.width.toNat := by
    intro e he
    rw [length_bytes, (entries_agree e he).2]
  have htiles : Layout.Tiles ([] : List UInt8).length (entries.map Prod.fst) Layout.recordLength :=
    tiles_first
  rw [hencode]
  exact htiles.slice_flatMap hwidth h

theorem slice_of_decode {bytes : List UInt8} {r : Record} (hs : s ∈ Layout.first.fields)
    (h : decode bytes = .ok r) : s.slice bytes = s.slice r.encode := by
  rw [encode_decode h, FieldSpec.slice_take s bytes (tiles_first.bounds hs).2]

theorem getElem?_encode_of_agree {a b : Record} (h : ∀ g, g ≠ f → a.get g = b.get g)
    (hentry : (s, f) ∈ entries) {i : ℕ} (hi : ¬ s.Covers i) : a.encode[i]? = b.encode[i]? := by
  -- A byte of the record lies in some part, which is not the one in which the records may differ.
  by_cases hlt : i < Layout.recordLength
  · obtain ⟨t, ht, hcovers⟩ := tiles_first.exists_covers (Nat.zero_le i) hlt
    obtain ⟨g, hg⟩ := exists_field ht
    have hne : g ≠ f := by
      rintro rfl
      exact hi (eq_of_entries hg hentry ▸ hcovers)
    rw [hcovers.getElem?_eq, hcovers.getElem?_eq, slice_encode a hg, slice_encode b hg, h g hne]
  · rw [List.getElem?_eq_none (by rw [length_encode]; omega),
      List.getElem?_eq_none (by rw [length_encode]; omega)]

/-- How a part stands at a place: the place lies within the record and holds what stands in the part, the
rest of the bytes does not depend on it, and what is read there depends on nothing else. -/
structure Field.StandsAt (f : Field) (s : FieldSpec) : Prop where
  inside : s.offset.toNat + s.width.toNat ≤ 148
  image : ∀ r : Record, s.slice r.encode = (r.get f).bytes
  frame : ∀ a b : Record, (∀ g, g ≠ f → a.get g = b.get g) →
    ∀ i, ¬ s.Covers i → a.encode[i]? = b.encode[i]?
  reading : ∀ (x y : List UInt8) (a b : Record), decode x = .ok a → decode y = .ok b →
    (a.get f = b.get f ↔ s.slice x = s.slice y)

/-- The layout names the parts of a record, each once and all of them, and each part stands where its
entry says. -/
theorem fields_in_place :
    (∀ s ∈ Layout.first.fields, ∃! f : Field, f.name = s.name) ∧
    (∀ f : Field, ∃! s, s ∈ Layout.first.fields ∧ s.name = f.name) ∧
    (∀ a b : Record, (∀ f, a.get f = b.get f) → a = b) ∧
    ∀ s ∈ Layout.first.fields, ∀ f : Field, f.name = s.name → f.StandsAt s := by
  refine ⟨?_, ?_, fun a b => eq_of_get, ?_⟩
  · intro s hs
    obtain ⟨f, hf⟩ := exists_field hs
    have hname := (entries_agree _ hf).1
    exact ⟨f, hname, fun g hg => Field.name_injective (hg.trans hname.symm)⟩
  · intro f
    obtain ⟨s, hs⟩ := exists_entry f
    refine ⟨s, ⟨mem_fields_of_entry hs, (entries_agree _ hs).1.symm⟩, ?_⟩
    rintro t ⟨ht, hname⟩
    exact eq_of_entries (mem_entries ht hname.symm) hs
  · intro s hs f hname
    have hentry := mem_entries hs hname
    exact {
      inside := (tiles_first.bounds hs).2
      image := fun r => slice_encode r hentry
      frame := fun a b h i hi => getElem?_encode_of_agree h hentry hi
      reading := by
        intro x y a b hx hy
        rw [slice_of_decode hs hx, slice_of_decode hs hy, slice_encode a hentry,
          slice_encode b hentry, bytes_get_inj] }

theorem fields_in_place_velocity :
    ∃ a b, decode (.replicate 148 0) = .ok a ∧ decode ((List.replicate 148 0).set 83 7) = .ok b ∧
      a.get (.word .velocity) ≠ b.get (.word .velocity) ∧
      a.get (.word .flow) = b.get (.word .flow) := by
  have hx : decode (.replicate 148 0) = .ok (ofBytes .urban false (.replicate 148 0)) := by
    decide +kernel
  have hy : decode ((List.replicate 148 0).set 83 7) =
      .ok (ofBytes .urban false ((List.replicate 148 0).set 83 7)) := by
    decide +kernel
  have hvelocity : Field.StandsAt (.word .velocity) (Layout.wordField "v_ms" 9) :=
    fields_in_place.2.2.2 _ (by decide) _ rfl
  have hflow : Field.StandsAt (.word .flow) (Layout.wordField "q_m3s" 8) :=
    fields_in_place.2.2.2 _ (by decide) _ rfl
  refine ⟨_, _, hx, hy, ?_, ?_⟩
  · rw [ne_eq, hvelocity.reading _ _ _ _ hx hy]
    decide
  · rw [hflow.reading _ _ _ _ hx hy]
    decide

end SiteSafety.Record
