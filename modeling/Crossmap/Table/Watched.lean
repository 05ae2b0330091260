import Crossmap.Table.Access

/-!
# Watched access

A `Watched` store counts the reads that it receives and can refuse every access to one of its
objects. What is refused does not reach the store behind it.
-/

namespace Crossmap

/-- An object that refuses access, and with what error. -/
structure Refusal where
  object : String
  error : StorageError
  deriving DecidableEq, Inhabited

/-- A store whose accesses are watched. -/
structure Watched (σ : Type) where
  store : σ
  /-- The object that refuses access, if there is one. -/
  refusal : Option Refusal
  readCount : Nat

namespace Watched

variable {σ : Type}

/-- A store that refuses nothing and has received no reads. -/
def fresh (store : σ) : Watched σ := ⟨store, none, 0⟩

/-- The error with which an access to an object is refused. -/
def refused? (w : Watched σ) (object : String) : Option StorageError :=
  (w.refusal.filter fun r => r.object = object).map Refusal.error

instance [RecordSource σ] : RecordSource (Watched σ) where
  read object filter w :=
    let counted := { w with readCount := w.readCount + 1 }
    match w.refused? object with
    | some e => (.error e, counted)
    | none =>
      let r := RecordSource.read object filter w.store
      (r.1, { counted with store := r.2 })

instance [RecordTarget σ] : RecordTarget (Watched σ) where
  write object rows w :=
    match w.refused? object with
    | some e => (.error e, w)
    | none =>
      let r := RecordTarget.write object rows w.store
      (r.1, { w with store := r.2 })

end Watched

end Crossmap
