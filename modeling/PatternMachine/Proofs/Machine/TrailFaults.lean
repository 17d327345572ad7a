import PatternMachine.Proofs.Machine.Faults
import PatternMachine.Proofs.Machine.Refinement

/-! The assertions on the trail and on the depth of the call stack never fail, for the machine with
full copies has no such assertions and both machines end in the same fault. -/
namespace PatternMachine

/-- The faults of a trail that does not fit the save points. -/
def Fault.OfTrail : Fault → Prop
  | .callDepthChanged | .trailTooShort _ _ => True
  | _ => False

theorem Fault.OfWord.not_ofTrail {f : Fault} (h : f.OfWord) : ¬f.OfTrail := by
  cases f <;> simp_all [OfWord, OfTrail]

theorem Fault.OfEffect.not_ofTrail {E : Type} {s : Search E} {c : Configuration} {f : Fault}
    (h : f.OfEffect s c) : ¬f.OfTrail := by
  cases h <;> exact id

namespace Search

variable {E : Type} {s : Search E} {f : Fault}

theorem copyingCycle_fault [DecidableEq E] {r r' : SnapshotMachine}
    (h : s.copyingCycle r = .fault f r') : ¬f.OfTrail := by
  unfold copyingCycle at h
  split at h
  · cases h; exact id
  split at h
  · cases h; exact id
  split at h
  · cases h
  split at h
  · cases h; exact id
  split at h
  next f' announced =>
    cases h
    unfold copyingAnnounce at announced
    split at announced
    · rcases bind_eq_error.mp announced with failed | ⟨_, _, failed⟩
      · rcases bind_eq_error.mp failed with failed | ⟨_, _, failed⟩
        · exact (Instruction.text_error failed).not_ofTrail
        · cases failed
      · cases failed
    · cases announced
  next r announced =>
    dsimp only at h
    split at h
    next f' failed =>
      cases h
      exact (Instruction.decode_error failed).not_ofTrail
    next op decoded =>
      generalize effected : s.effect r.config op = e at h
      cases e with
      | fault f' => cases h; exact (effect_fault effected).not_ofTrail
      | drop =>
        simp only [copyingObey] at h
        split at h <;> cases h
        exact id
      | dropThrough target =>
        simp only [copyingObey] at h
        split at h <;> cases h
        exact id
      | _ => cases h

theorem copyingRunFor_fault [DecidableEq E] {n : Nat} {r r' : SnapshotMachine}
    (h : s.copyingRunFor n r = .fault f r') : ¬f.OfTrail := by
  induction n generalizing r with
  | zero => cases h
  | succ n ih =>
    unfold copyingRunFor at h
    split at h
    · split at h
      · exact ih h
      next failed => cases h; exact copyingCycle_fault failed
    · cases h

end Search

/-- After any number of cycles the machine with the trail and the machine with full copies agree, or
have ended in the same fault, which is none of the assertions on the trail. Wherever a run gets to,
backtracking puts back what the latest copy holds, and without save points nothing is noted. -/
theorem trail_refines_copies {E : Type} [DecidableEq E] (s : Search E) (n : Nat) :
    match s.runFor n s.start, s.copyingRunFor n s.copyingStart with
    | .next m, .next r =>
      Agrees m r ∧ (∃ m', m.backtrack = .next m' ∧ Agrees m' r.backtrack) ∧
        (∀ sp, m.savePoints.top? = some sp → sp.trailEnd ≤ m.trail.depth) ∧
        (m.savePoints.isEmpty → m.trail.isEmpty)
    | .fault f m, .fault f' r => f = f' ∧ Agrees m r ∧ ¬f.OfTrail
    | _, _ => False := by
  have run := (Tracks.start s).runFor (s := s) n
  cases left : s.runFor n s.start with
  | next m =>
    cases right : s.copyingRunFor n s.copyingStart with
    | fault => rw [left, right] at run; exact run
    | next r =>
      rw [left, right] at run
      have tracks : Tracks m r := run
      refine ⟨tracks.toAgrees, ?_, fun sp => tracks.trailEnd_le, ?_⟩
      · obtain ⟨m', resumed, tracks'⟩ := tracks.backtrack
        exact ⟨m', resumed, tracks'.toAgrees⟩
      · intro empty
        have restores := tracks.restores
        rw [List.isEmpty_iff.mp empty] at restores
        exact List.isEmpty_iff.mpr restores.trail_nil.1
  | fault f m =>
    cases right : s.copyingRunFor n s.copyingStart with
    | next => rw [left, right] at run; exact run
    | fault f' r =>
      rw [left, right] at run
      obtain ⟨rfl, agrees⟩ := run
      exact ⟨rfl, agrees, Search.copyingRunFor_fault (s := s) right⟩

end PatternMachine
