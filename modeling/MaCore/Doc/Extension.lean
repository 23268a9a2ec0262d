import MaCore.Doc

open rust

namespace ma_core.doc

/-- `BTreeMap::insert` on entries in key order. -/
def insert_entry {V : Type} (key : String) (value : V) : List (String × V) → List (String × V)
  | [] => [(key, value)]
  | (k, v) :: entries =>
    if key < k then (key, value) :: (k, v) :: entries
    else if key = k then (key, value) :: entries
    else (k, v) :: insert_entry key value entries

/-- A builder of the `ma` field. -/
structure MaExtension where
  map : List (String × Ipld)

namespace MaExtension

def new : MaExtension := ⟨[]⟩

def services (self : MaExtension) (services : List String) : MaExtension :=
  ⟨insert_entry "services" (strings services) self.map⟩

def build (self : MaExtension) : Ipld := if self.map.isEmpty then .Null else .Map self.map

end MaExtension

def Document.set_ma (self : Document) (ma : Ipld) : Document :=
  match ma with
  | .Null | .Map [] => { self with ma := none }
  | ma => { self with ma := some ma }

def Document.set_ma_extension (self : Document) (ext : MaExtension) : Document := self.set_ma ext.build

/-- `Ipld::get` with a text: the entry of a map. -/
def ipld_get (key : String) : Ipld → Option Ipld
  | .Map entries => entries.lookup key
  | _ => none

theorem insert_entry_ne_nil {V : Type} (key : String) (value : V) (entries : List (String × V)) :
    insert_entry key value entries ≠ [] := by
  cases entries with
  | nil => exact List.cons_ne_nil _ _
  | cons entry entries =>
    unfold insert_entry
    split
    · exact List.cons_ne_nil _ _
    · split <;> exact List.cons_ne_nil _ _

theorem lookup_insert_entry {V : Type} (key : String) (value : V) (entries : List (String × V)) :
    (insert_entry key value entries).lookup key = some value := by
  induction entries with
  | nil => simp [insert_entry]
  | cons entry entries ih =>
    obtain ⟨k, v⟩ := entry
    unfold insert_entry
    by_cases hbefore : key < k
    · simp [hbefore]
    · by_cases hkey : key = k
      · simp [hkey]
      · have hother : (key == k) = false := beq_eq_false_iff_ne.mpr hkey
        simp [hbefore, hkey, ih, List.lookup_cons, hother]

/-- The services of an extension are those of the document it is set in. -/
theorem Document.services_set_ma_extension (self : Document) (ext : MaExtension) (services : List String) :
    ((self.set_ma_extension (ext.services services)).ma.bind (ipld_get "services")) = some (strings services) := by
  have hne := insert_entry_ne_nil "services" (strings services) ext.map
  have hbuild : (ext.services services).build = .Map (insert_entry "services" (strings services) ext.map) := by
    simp [MaExtension.build, MaExtension.services, hne]
  have hset : self.set_ma (.Map (insert_entry "services" (strings services) ext.map)) =
      { self with ma := some (.Map (insert_entry "services" (strings services) ext.map)) } := by
    unfold set_ma
    split
    · rename_i heq
      cases heq
    · rename_i heq
      exact absurd (Ipld.Map.inj heq) hne
    · rfl
  rw [set_ma_extension, hbuild, hset]
  exact lookup_insert_entry _ _ _

end ma_core.doc
