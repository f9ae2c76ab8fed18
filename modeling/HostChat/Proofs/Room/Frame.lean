import HostChat.Proofs.Host.Memory
import HostChat.Proofs.Host.ObjectKeys

/-! # What the making and removing of rooms leaves alone

No object that was there before is touched, new stores are empty, and no name leads anywhere new but
the two of a room that is made.
-/

namespace HostChat

variable {σ : Type}

namespace Host

variable {host after last : Host σ} {store : Nat}

/-- No store and no lock has a name. -/
def Nameless (host : Host σ) : Prop :=
  (∀ key, host.stores.names.find? key = none) ∧ ∀ key, host.locks.names.find? key = none

/-- A store of a room's size with a proper header. -/
def IsRoom (host : Host σ) (store : Nat) : Prop :=
  ∃ object, host.stores.objects[store]? = some object ∧ RoomMemory.byteSize ≤ object.size ∧
    object.memory.header.check = .ok ()

theorem IsRoom.made (isRoom : host.IsRoom store) : store < host.stores.objects.size := by
  obtain ⟨object, found, -⟩ := isRoom
  exact (Array.getElem?_eq_some_iff.mp found).1

theorem IsRoom.setMemory {other : Nat} {memory : RoomMemory} (isRoom : host.IsRoom store)
    (header : memory.header = (host.memory other).header) :
    (host.setMemory other memory).IsRoom store := by
  obtain ⟨object, found, size, check⟩ := isRoom
  by_cases same : other = store
  · subst same
    refine ⟨{ object with memory }, ?_, size, ?_⟩
    · simp [Host.setMemory, Directory.modify, Array.getElem?_modify, found]
    · have read : host.memory other = object.memory := by simp [Host.memory, found]
      rw [header, read, check]
  · refine ⟨object, ?_, size, check⟩
    simpa [Host.setMemory, Directory.modify, Array.getElem?_modify, same] using found

/-- Everything that was there before is there afterwards, and what is new is empty. -/
structure Spares (host after : Host σ) : Prop where
  carrier : after.carrier = host.carrier
  stores_size : host.stores.objects.size ≤ after.stores.objects.size
  stores : ∀ store < host.stores.objects.size,
    after.stores.objects[store]? = host.stores.objects[store]?
  registry : ∀ store, (after.memory store).registry = (host.memory store).registry
  mailbox : ∀ store, (after.memory store).mailbox = (host.memory store).mailbox
  locks_size : host.locks.objects.size ≤ after.locks.objects.size
  locks : ∀ lock < host.locks.objects.size, after.locks.objects[lock]? = host.locks.objects[lock]?

/-- Nothing is made and nothing is written. -/
theorem Spares.of_objects (carrier : after.carrier = host.carrier)
    (stores : after.stores.objects = host.stores.objects)
    (locks : after.locks.objects = host.locks.objects) : host.Spares after where
  carrier := carrier
  stores_size := Nat.le_of_eq (by rw [stores])
  stores := fun _ _ => by rw [stores]
  registry := fun _ => by simp only [memory, stores]
  mailbox := fun _ => by simp only [memory, stores]
  locks_size := Nat.le_of_eq (by rw [locks])
  locks := fun _ _ => by rw [locks]

theorem Spares.refl (host : Host σ) : host.Spares host := .of_objects rfl rfl rfl

theorem Spares.trans (first : host.Spares after) (second : after.Spares last) : host.Spares last where
  carrier := second.carrier.trans first.carrier
  stores_size := Nat.le_trans first.stores_size second.stores_size
  stores store made :=
    (second.stores store (Nat.lt_of_lt_of_le made first.stores_size)).trans (first.stores store made)
  registry store := (second.registry store).trans (first.registry store)
  mailbox store := (second.mailbox store).trans (first.mailbox store)
  locks_size := Nat.le_trans first.locks_size second.locks_size
  locks lock made :=
    (second.locks lock (Nat.lt_of_lt_of_le made first.locks_size)).trans (first.locks lock made)

theorem Spares.isRoom (spares : host.Spares after) (isRoom : host.IsRoom store) :
    after.IsRoom store := by
  have made := isRoom.made
  obtain ⟨object, found, proper⟩ := isRoom
  exact ⟨object, (spares.stores store made).trans found, proper⟩

/-- A new store holds an empty room. -/
theorem spares_pushStore (host : Host σ) (names : Table String Nat) :
    host.Spares { host with stores := ⟨host.stores.objects.push .fresh, names⟩ } := by
  have reads : ∀ store, (host.stores.objects.push .fresh)[store]? =
      if store = host.stores.objects.size then some .fresh else host.stores.objects[store]? :=
    fun store => Array.getElem?_push
  refine ⟨rfl, by simp, fun store made => ?_, fun store => ?_, fun store => ?_, Nat.le_refl _,
    fun _ _ => rfl⟩
  · simp only [reads, if_neg (Nat.ne_of_lt made)]
  · simp only [memory, reads]
    split_ifs with new
    · simp [new, Store.fresh, RoomMemory.fresh, RoomMemory.zero]
    · rfl
  · simp only [memory, reads]
    split_ifs with new
    · simp [new, Store.fresh, RoomMemory.fresh, RoomMemory.zero]
    · rfl

theorem spares_pushLock (host : Host σ) (names : Table String Nat) :
    host.Spares { host with locks := ⟨host.locks.objects.push 1, names⟩ } where
  carrier := rfl
  stores_size := Nat.le_refl _
  stores _ _ := rfl
  registry _ := rfl
  mailbox _ := rfl
  locks_size := by simp
  locks lock made := by simp only [Array.getElem?_push, if_neg (Nat.ne_of_lt made)]

end Host

namespace Directory

variable {α : Type} {directory after last : Directory α} {kind : ObjectKind} {name : String}

/-- No name leads anywhere new, and only the given one may lead nowhere now. -/
structure Loses (kind : ObjectKind) (name : String) (directory after : Directory α) : Prop where
  old : ∀ {key number}, after.names.find? key = some number →
    directory.names.find? key = some number
  kept : ∀ {key number}, directory.names.find? key = some number →
    objectKey kind name ≠ .ok key → after.names.find? key = some number

theorem Loses.refl : Loses kind name directory directory := ⟨id, fun found _ => found⟩

theorem Loses.trans (first : Loses kind name directory after) (second : Loses kind name after last) :
    Loses kind name directory last :=
  ⟨fun found => first.old (second.old found),
    fun found other => second.kept (first.kept found other) other⟩

theorem Loses.find?_eq (loses : Loses kind name directory after) {key : String}
    (other : objectKey kind name ≠ .ok key) :
    after.names.find? key = directory.names.find? key := by
  cases found : directory.names.find? key with
  | some number => exact loses.kept found other
  | none =>
    cases kept : after.names.find? key with
    | none => rfl
    | some number =>
      rw [loses.old kept] at found
      cases found

theorem Loses.find?_eq_of_absent (loses : Loses kind name directory after)
    (absent : ∀ key, objectKey kind name = .ok key → directory.names.find? key = none) (key : String) :
    after.names.find? key = directory.names.find? key := by
  by_cases own : objectKey kind name = .ok key
  · rw [absent key own]
    cases kept : after.names.find? key with
    | none => rfl
    | some number =>
      rw [← absent key own, loses.old kept]
  · exact loses.find?_eq own

theorem loses_of_unlink {present : Bool} (success : directory.unlink kind name = .ok (present, after)) :
    Loses kind name directory after :=
  ⟨fun found => ((unlink_find? success).mp found).1,
    fun found other => (unlink_find? success).mpr ⟨found, other⟩⟩

/-- A name that was not there does not stay if it is removed again. -/
theorem loses_of_insert_erase {key : String} (number : Nat) (objects : Array α)
    (free : directory.names.find? key = none) :
    Loses kind name directory ⟨objects, (directory.names.insert key number).erase key⟩ := by
  have same : ∀ other, ((directory.names.insert key number).erase key).find? other =
      directory.names.find? other := by
    intro other
    rw [Table.find?_erase, Table.find?_insert]
    split_ifs with equal
    · rw [← equal, free]
    · rfl
  exact ⟨fun found => (same _).symm.trans found, fun found _ => (same _).trans found⟩

end Directory

end HostChat
