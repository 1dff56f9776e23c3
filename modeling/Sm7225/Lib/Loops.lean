import Sm7225.Lib.Prog

/-!
# Loops

The loop {lit}`while (condition()) if (!body()) break;` is executed for a number of
rounds, and has no result when these are too few.  A measure that each round lowers
bounds the rounds, and then the loop is the same as a program that stops counting
there.
-/

namespace Sm7225
namespace Lib

variable {ε σ : Type}

def loop (condition : σ -> Bool) (body : EStateM ε σ Bool) :
    Nat -> σ -> Option (EStateM.Result ε σ Unit)
  | 0, _ => none
  | rounds + 1, s =>
      if condition s then
        match body s with
        | .ok true t => loop condition body rounds t
        | .ok false t => some (.ok () t)
        | .error e t => some (.error e t)
      else
        some (.ok () s)

def boundedLoop (condition : σ -> Bool) (body : EStateM ε σ Bool) :
    Nat -> EStateM ε σ Unit
  | 0 => pure ()
  | n + 1 => do
      let s ← get
      if condition s then
        let again ← body
        if again then
          boundedLoop condition body n
        else
          pure ()
      else
        pure ()

structure Lowers (condition : σ -> Bool) (body : EStateM ε σ Bool)
    (measure : σ -> Nat) : Prop where
  positive : forall s, condition s = true -> 0 < measure s
  round : forall s, condition s = true ->
    Sat body (fun again t => again = true -> measure t < measure s)
      (fun _ _ => True) s

section Rules

variable {condition : σ -> Bool} {body : EStateM ε σ Bool} {measure : σ -> Nat}

theorem Lowers.loop_eq (h : Lowers condition body measure) {n rounds : Nat} {s : σ}
    (hmeasure : measure s <= n) (hrounds : n < rounds) :
    loop condition body rounds s = some (boundedLoop condition body n s) := by
  induction n generalizing s rounds with
  | zero =>
      cases rounds with
      | zero => exact absurd hrounds (Nat.lt_irrefl 0)
      | succ rounds =>
          have hstops : ¬condition s = true := by
            intro hgoes
            have hpositive := h.positive s hgoes
            lia
          rw [loop, if_neg hstops]
          rfl
  | succ n ih =>
      cases rounds with
      | zero => exact absurd hrounds (Nat.not_lt_zero _)
      | succ rounds =>
          have hbounded : boundedLoop condition body (n + 1) s =
              if condition s = true then
                (body >>= fun again =>
                  if again then boundedLoop condition body n else pure ()) s
              else
                .ok () s := by
            show (if condition s = true then _ else _ : EStateM ε σ Unit) s = _
            split
            · rfl
            · rfl
          rw [loop, hbounded]
          by_cases hgoes : condition s = true
          · rw [if_pos hgoes, if_pos hgoes]
            have hround := h.round s hgoes
            show _ = some (EStateM.bind body _ s)
            unfold EStateM.bind
            cases hbody : body s with
            | ok again t =>
                rw [sat_of_ok hbody] at hround
                cases again with
                | true =>
                    have hlower := hround rfl
                    exact ih (by lia) (Nat.lt_of_succ_lt_succ hrounds)
                | false => rfl
            | error e t => rfl
          · rw [if_neg hgoes, if_neg hgoes]

end Rules

end Lib
end Sm7225
