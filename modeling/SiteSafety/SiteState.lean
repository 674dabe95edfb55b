import SiteSafety.Basic

namespace SiteSafety

/-- A float as it is carried: unlike `Float`, whose arithmetic knows one NaN, it keeps the sign and
payload of a NaN. -/
structure Binary64 where
  bits : UInt64
  deriving DecidableEq, Inhabited

namespace Binary64

def toFloat (w : Binary64) : Float := Float.ofBits w.bits

def ofFloat (x : Float) : Binary64 := ⟨x.toBits⟩

def zero : Binary64 := ⟨0⟩

/-- Numeric equality: a NaN equals nothing and the two zeros are equal. -/
def sameNumber (a b : Binary64) : Bool := a.toFloat == b.toFloat

def toBytes (w : Binary64) : List UInt8 :=
  [ (w.bits >>> 56).toUInt8, (w.bits >>> 48).toUInt8, (w.bits >>> 40).toUInt8,
    (w.bits >>> 32).toUInt8, (w.bits >>> 24).toUInt8, (w.bits >>> 16).toUInt8,
    (w.bits >>> 8).toUInt8, w.bits.toUInt8 ]

def ofBytes (b₀ b₁ b₂ b₃ b₄ b₅ b₆ b₇ : UInt8) : Binary64 :=
  ⟨(b₀.toUInt64 <<< 56) ||| (b₁.toUInt64 <<< 48) ||| (b₂.toUInt64 <<< 40) |||
    (b₃.toUInt64 <<< 32) ||| (b₄.toUInt64 <<< 24) ||| (b₅.toUInt64 <<< 16) |||
    (b₆.toUInt64 <<< 8) ||| b₇.toUInt64⟩

end Binary64

inductive Context where
  | urban
  | coastal
  deriving DecidableEq, Inhabited

namespace Context

def tag : Context → UInt8
  | .urban => 0
  | .coastal => 1

def ofTag? (tag : UInt8) : Option Context :=
  if tag = 0 then some .urban else if tag = 1 then some .coastal else none

end Context

structure Hydraulics (α : Type) where
  flow : α
  velocity : α
  availableEnergy : α
  deriving DecidableEq, Inhabited

def Hydraulics.map {α β : Type} (f : α → β) (h : Hydraulics α) : Hydraulics β :=
  ⟨f h.flow, f h.velocity, f h.availableEnergy⟩

structure Indices (α : Type) where
  impactDelta : α
  viability : α
  bioStress : α
  deriving DecidableEq, Inhabited

def Indices.map {α β : Type} (f : α → β) (i : Indices α) : Indices β :=
  ⟨f i.impactDelta, f i.viability, f i.bioStress⟩

structure Residual (α : Type) where
  mass : α
  energy : α
  deriving DecidableEq, Inhabited

def Residual.map {α β : Type} (f : α → β) (r : Residual α) : Residual β := ⟨f r.mass, f r.energy⟩

/-- Bounds on a residual: two-sided on mass, one-sided on energy, where a negative bound demands
net dissipation. -/
structure Tolerances where
  mass : Float
  energy : Float
  deriving DecidableEq

namespace Tolerances

def validate (t : Tolerances) : Except Violation Unit :=
  if !t.mass.isFinite then .error (.nonFinite "mass_tolerance")
  else if !t.energy.isFinite then .error (.nonFinite "energy_tolerance")
  else if t.mass < 0 then .error (.negativeTolerance "mass" t.mass)
  else .ok ()

def standard : Tolerances := ⟨0.01, 0⟩

end Tolerances

/-- The first limit, in record order, that is not positive decides the error. -/
def Panel.requirePositive (p : Panel Float) : Except Violation Unit :=
  Contaminant.all.forM fun c =>
    if p.get c > 0 then .ok () else .error (.nonPositiveReference c.name (p.get c))

structure SiteState (α : Type) where
  context : Context
  concentrations : Panel α
  thresholds : Panel α
  hydraulics : Hydraulics α
  indices : Indices α
  deriving DecidableEq, Inhabited

namespace SiteState

variable {α β : Type}

def map (f : α → β) (s : SiteState α) : SiteState β :=
  { context := s.context
    concentrations := s.concentrations.map f
    thresholds := s.thresholds.map f
    hydraulics := s.hydraulics.map f
    indices := s.indices.map f }

def validate (s : SiteState Float) : Except Violation Unit := do
  s.thresholds.requirePositive
  if 0 ≤ s.hydraulics.flow then .ok () else .error (.negativeFlow s.hydraulics.flow)
  requireStress s.indices.bioStress

end SiteState

end SiteSafety
