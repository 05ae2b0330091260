import Crossmap.Table.Access

/-!
# Rows in memory

A `MemoryStore` keeps the rows of every object in order. Reading filters them, writing appends to
them, and every write is counted, the empty ones included. An empty batch creates no object.
-/

namespace Crossmap

/-- Objects with their rows. -/
structure MemoryStore where
  objects : Dict String (List Row)
  /-- The number of writes that every object received. -/
  writeCalls : Dict String Nat

namespace MemoryStore

/-- The store without objects. -/
def empty : MemoryStore := ⟨.empty, .empty⟩

instance : Inhabited MemoryStore := ⟨empty⟩

/-- The rows of an object; none where it is unknown. -/
def rows (s : MemoryStore) (object : String) : List Row := (s.objects.get? object).getD []

/-- The names of the objects. -/
def objectNames (s : MemoryStore) : List String := s.objects.keys

/-- The number of writes that an object received. -/
def writeCount (s : MemoryStore) (object : String) : Nat := (s.writeCalls.get? object).getD 0

/-- The store with rows added to an object, which exists from then on. -/
def insertRows (s : MemoryStore) (object : String) (rows : List Row) : MemoryStore :=
  { s with objects := s.objects.update object fun old => old.getD [] ++ rows }

/-- The store after a batch was written to an object. -/
def append (s : MemoryStore) (object : String) (batch : List Row) : MemoryStore :=
  let counted := { s with writeCalls := s.writeCalls.update object fun n => n.getD 0 + 1 }
  if batch.isEmpty then counted else counted.insertRows object batch

instance : RecordSource MemoryStore where
  read object filter s := (.ok ((s.rows object).filter fun row => row.satisfies filter), s)

instance : RecordTarget MemoryStore where
  write object rows s := (.ok (), s.append object rows)

end MemoryStore

end Crossmap
