import Mathlib.Algebra.Ring.Int.Defs
import Sm7225.Lib.Binary32
import Sm7225.Lib.Prog

/-!
# Computations in 64 bits

A program over integers stands for one over {lit}`int64_t` as long as none of its
computations overflows.  The computations of a program are listed, and each of them is
compared with the one in 64 bits, which wraps around.
-/

namespace Sm7225
namespace Lib

def FitsInt64 (n : Int) : Prop := -2 ^ 63 <= n ∧ n < 2 ^ 63

instance (n : Int) : Decidable (FitsInt64 n) := inferInstanceAs (Decidable (_ ∧ _))

inductive Computation where
  | add (a b : Int)
  | sub (a b : Int)
  | mul (a b : Int)
  | convert (x : Binary32)
  deriving DecidableEq, Repr

namespace Computation

/-- The mathematical value, which only a number has. -/
def value : Computation -> Option Int
  | add a b => some (a + b)
  | sub a b => some (a - b)
  | mul a b => some (a * b)
  | convert x => x.toInt?

def int64 : Computation -> Int
  | add a b => (Int64.ofInt a + Int64.ofInt b).toInt
  | sub a b => (Int64.ofInt a - Int64.ofInt b).toInt
  | mul a b => (Int64.ofInt a * Int64.ofInt b).toInt
  | convert x => x.toInt64

/-- The computation gives the mathematical value. -/
def Exact (c : Computation) : Prop := c.value = some c.int64

instance (c : Computation) : Decidable c.Exact :=
  inferInstanceAs (Decidable (_ = _))

def Fits : Computation -> Prop
  | add a b => FitsInt64 (a + b)
  | sub a b => FitsInt64 (a - b)
  | mul a b => FitsInt64 (a * b)
  | convert x => exists n, x.toInt? = some n ∧ FitsInt64 n

theorem toInt_ofInt_eq_iff (n : Int) : (Int64.ofInt n).toInt = n <-> FitsInt64 n := by
  constructor
  · intro h
    rw [← h]
    exact ⟨Int64.le_toInt _, Int64.toInt_lt _⟩
  · intro h
    exact Int64.toInt_ofInt_of_le h.1 h.2

theorem exact_iff (c : Computation) : c.Exact <-> c.Fits := by
  unfold Exact int64 value Fits
  cases c with
  | add a b =>
      dsimp only
      rw [Option.some_inj, ← Int64.ofInt_add, eq_comm]
      exact toInt_ofInt_eq_iff _
  | sub a b =>
      dsimp only
      rw [Option.some_inj, ← Int64.ofInt_sub, eq_comm]
      exact toInt_ofInt_eq_iff _
  | mul a b =>
      dsimp only
      rw [Option.some_inj, ← Int64.ofInt_mul, eq_comm]
      exact toInt_ofInt_eq_iff _
  | convert x =>
      dsimp only
      cases hvalue : x.toInt? with
      | none => simp
      | some n =>
          rw [Binary32.toInt64_of_toInt? hvalue]
          unfold FitsInt64
          simp only [Option.some_inj, exists_eq_left']
          lia

end Computation

def AllExact (cs : List Computation) : Prop := forall c, c ∈ cs -> c.Exact

instance (cs : List Computation) : Decidable (AllExact cs) :=
  inferInstanceAs (Decidable (forall c, c ∈ cs -> c.Exact))

theorem allExact_nil : AllExact [] :=
  fun _ hc => (List.not_mem_nil hc).elim

@[simp] theorem allExact_cons {c : Computation} {cs : List Computation} :
    AllExact (c :: cs) <-> c.Fits ∧ AllExact cs := by
  unfold AllExact
  rw [List.forall_mem_cons, Computation.exact_iff]

theorem allExact_singleton {c : Computation} : AllExact [c] <-> c.Fits := by
  rw [allExact_cons]
  exact and_iff_left allExact_nil

@[simp] theorem allExact_append {cs cs' : List Computation} :
    AllExact (cs ++ cs') <-> AllExact cs ∧ AllExact cs' :=
  List.forall_mem_append

theorem allExact_of_if {c : Prop} [Decidable c] {cs cs' : List Computation}
    (h : AllExact (if c then cs else cs')) (hc : c) : AllExact cs := by
  rwa [if_pos hc] at h

theorem allExact_of_else {c : Prop} [Decidable c] {cs cs' : List Computation}
    (h : AllExact (if c then cs else cs')) (hc : ¬c) : AllExact cs' := by
  rwa [if_neg hc] at h

def lastResult (cs : List Computation) (unchanged : Int) : Int :=
  (cs.getLast?.map Computation.int64).getD unchanged

theorem lastResult_snoc (cs : List Computation) {c : Computation} {n unchanged : Int}
    (h : AllExact (cs ++ [c])) (hvalue : c.value = some n) :
    lastResult (cs ++ [c]) unchanged = n := by
  have hexact : c.Exact := h c (List.mem_append_right cs (List.mem_singleton_self c))
  unfold Computation.Exact at hexact
  rw [hvalue] at hexact
  unfold lastResult
  rw [List.getLast?_concat]
  exact (Option.some.inj hexact).symm

/-!
# The computations of a program

A program makes the computations of its first part, and then those of the rest, which
starts from where the first part ended.
-/

variable {ε σ α β : Type}

/-- The computations after the program {lit}`m`, if it returns. -/
def after (m : EStateM ε σ α) (rest : α -> σ -> List Computation) (s : σ) :
    List Computation :=
  match m s with
  | .ok a t => rest a t
  | .error _ _ => []

section Rules

variable {m : EStateM ε σ α} {rest : α -> σ -> List Computation} {s : σ}

theorem allExact_after :
    AllExact (after m rest s) <->
      Sat m (fun a t => AllExact (rest a t)) (fun _ _ => True) s := by
  unfold after Sat
  cases m s with
  | ok a t => rfl
  | error e t =>
      constructor
      · intro _
        trivial
      · intro _
        exact allExact_nil

theorem allExact_of_after {a : α} {t : σ} (hm : m s = .ok a t)
    (h : AllExact (after m rest s)) : AllExact (rest a t) := by
  rw [allExact_after, sat_of_ok hm] at h
  exact h

theorem Sat.allExact_after {Q : α -> σ -> Prop} {E : ε -> σ -> Prop} (h : Sat m Q E s)
    (hrest : forall a t, Q a t -> AllExact (rest a t)) : AllExact (after m rest s) :=
  Lib.allExact_after.mpr (h.mono hrest (fun _ _ _ => trivial))

end Rules

end Lib
end Sm7225
