import TurtleLogo.Proofs.Trimming
import TurtleLogo.Store

/-!
# The store as a catalog

To its users the store is a finite map from names to sources. Deleted programs, which stay in their
rows until they are purged, are part of how the map is kept and not of the map: no answer tells
whether a name has a deleted row or none.
-/

set_option autoImplicit false

namespace TurtleLogo

namespace Store

structure Name where
  text : Text
  trimmed : Text.trim text = text
  nonempty : text ≠ []
  deriving DecidableEq

def Name.of? (t : Text) : Option Name :=
  if empty : Text.trim t = [] then none else some ⟨Text.trim t, Text.trim_trim t, empty⟩

inductive Call where
  | save (now : Int) (name source : Text)
  | load (now : Int) (name : Text)
  | delete (now : Int) (name : Text)
  | list (now : Int)
  | purge (now before : Int)

def Call.purges : Call → Bool
  | .purge _ _ => true
  | _ => false

structure Copy where
  name : Text
  source : Text
  fingerprint : Text
  deriving DecidableEq, Repr

def Row.copy (r : Row) : Copy :=
  ⟨r.name, r.source, r.fingerprint⟩

inductive Answer where
  | saved (result : Except Failure Unit)
  | loaded (result : Except Failure Copy)
  | deleted (result : Except Failure Unit)
  | listed (result : Except Failure (List Text))

/-- Does what a call asks for. What fails changes nothing, and a purge is not answered. -/
def reply (s : Store) : Call → Store × Option Answer
  | .save now name source =>
    match s.save ⟨now, false⟩ name source with
    | .ok after => (after, some (.saved (.ok ())))
    | .error failure => (s, some (.saved (.error failure)))
  | .load now name => (s, some (.loaded ((s.load ⟨now, false⟩ name).map Row.copy)))
  | .delete now name =>
    match s.delete ⟨now, false⟩ name with
    | .ok after => (after, some (.deleted (.ok ())))
    | .error failure => (s, some (.deleted (.error failure)))
  | .list now => (s, some (.listed (s.list ⟨now, false⟩)))
  | .purge now before =>
    match s.purge ⟨now, false⟩ before with
    | .ok (_, after) => (after, none)
    | .error _ => (s, none)

def answers (s : Store) : List Call → List Answer
  | [] => []
  | call :: rest => (s.reply call).2.toList ++ (s.reply call).1.answers rest

/-! ## The catalog -/

abbrev Catalog := Finmap fun _ : Name => Text

namespace Catalog

def find? (c : Catalog) (t : Text) : Option (Name × Text) := do
  let name ← Name.of? t
  let source ← c.lookup name
  return (name, source)

def names (c : Catalog) : List Text :=
  (c.keys.image Name.text).sort (· ≤ ·)

def reply (c : Catalog) : Call → Catalog × Option Answer
  | .save _ t source =>
    match Name.of? t with
    | some name => (c.insert name source, some (.saved (.ok ())))
    | none => (c, some (.saved (.error .emptyName)))
  | .load _ t =>
    match c.find? t with
    | some (name, source) => (c, some (.loaded (.ok ⟨name.text, source, Fingerprint.of source⟩)))
    | none => (c, some (.loaded (.error (.during (.load (Text.trim t)) .notFound))))
  | .delete _ t =>
    match c.find? t with
    | some (name, _) => (c.erase name, some (.deleted (.ok ())))
    | none => (c, some (.deleted (.error (.during (.delete (Text.trim t)) .notFound))))
  | .list _ => (c, some (.listed (.ok c.names)))
  | .purge _ _ => (c, none)

def answers (c : Catalog) : List Call → List Answer
  | [] => []
  | call :: rest => (c.reply call).2.toList ++ answers (c.reply call).1 rest

end Catalog

/-! ## Rows -/

structure Row.Sound (r : Row) : Prop where
  trimmed : Text.trim r.name = r.name
  nonempty : r.name ≠ []
  fingerprinted : r.fingerprint = Fingerprint.of r.source

/-- The rows of a store are sound, and no two of them, live or deleted, have the same name. -/
structure Sound (s : Store) : Prop where
  distinct : (s.rows.map (·.name)).Nodup
  rows : ∀ r ∈ s.rows, r.Sound

theorem sound_empty : empty.Sound where
  distinct := List.nodup_nil
  rows := by simp [empty]

theorem Sound.eq_of_name {s : Store} (sound : s.Sound) {r r' : Row} (member : r ∈ s.rows)
    (member' : r' ∈ s.rows) (same : r.name = r'.name) : r = r' :=
  List.inj_on_of_nodup_map sound.distinct member member' same

theorem Sound.live?_eq_some_iff {s : Store} (sound : s.Sound) {name : Text} {r : Row} :
    s.live? name = some r ↔ r ∈ s.rows ∧ r.name = name ∧ r.deleted = false := by
  constructor
  · intro found
    have holds := List.find?_some found
    simp only [Bool.and_eq_true, beq_iff_eq, Bool.not_eq_true'] at holds
    exact ⟨List.mem_of_find?_eq_some found, holds⟩
  · rintro ⟨member, named, live⟩
    have present : (s.live? name).isSome := by
      rw [live?, List.find?_isSome]
      exact ⟨r, member, by simp [named, live]⟩
    obtain ⟨r', found⟩ := Option.isSome_iff_exists.mp present
    have holds := List.find?_some found
    simp only [Bool.and_eq_true, beq_iff_eq, Bool.not_eq_true'] at holds
    have same : r' = r :=
      sound.eq_of_name (List.mem_of_find?_eq_some found) member (holds.1.trans named.symm)
    rw [found, same]

theorem row?_eq_none_iff {s : Store} {name : Text} :
    s.row? name = none ↔ ∀ r ∈ s.rows, r.name ≠ name := by
  simp [row?, List.find?_eq_none]

theorem Sound.mapRows {s : Store} (sound : s.Sound) (name : Text) {change : Row → Row}
    (named : ∀ r, (change r).name = r.name) (kept : ∀ r, r.Sound → (change r).Sound) :
    (s.mapRows name change).Sound := by
  constructor
  · have names : (s.mapRows name change).rows.map (·.name) = s.rows.map (·.name) := by
      rw [Store.mapRows, List.map_map]
      apply List.map_congr_left
      intro r _
      by_cases here : r.name = name
      · simp [here, named]
      · simp [here]
    rw [names]
    exact sound.distinct
  · intro r' member
    obtain ⟨r, inside, rfl⟩ := List.mem_map.mp member
    by_cases here : r.name = name
    · simpa [here] using kept r (sound.rows r inside)
    · simpa [here] using sound.rows r inside

theorem Sound.create {s : Store} (sound : s.Sound) (name : Name) (source : Text) (now : Int)
    (fresh : ∀ r ∈ s.rows, r.name ≠ name.text) :
    Sound { s with rows := s.rows ++ [Row.create name.text source now] } := by
  constructor
  · rw [List.map_append, List.nodup_append]
    refine ⟨sound.distinct, List.nodup_singleton _, ?_⟩
    intro old member new last
    obtain ⟨r, inside, rfl⟩ := List.mem_map.mp member
    rw [List.map_singleton, List.mem_singleton] at last
    rw [last]
    exact fresh r inside
  · intro r member
    rcases List.mem_append.mp member with old | new
    · exact sound.rows r old
    · rw [List.mem_singleton.mp new]
      exact ⟨name.trimmed, name.nonempty, rfl⟩

theorem Sound.filter {s : Store} (sound : s.Sound) (keep : Row → Bool) :
    Sound { s with rows := s.rows.filter keep } where
  distinct := sound.distinct.sublist (List.filter_sublist.map _)
  rows := fun r member => sound.rows r (List.mem_of_mem_filter member)

theorem Sound.revise {s : Store} (sound : s.Sound) (name source : Text) (now : Int) :
    (s.mapRows name fun r => r.revise source now).Sound := by
  apply sound.mapRows
  · intro r
    rfl
  · intro r row
    exact ⟨row.trimmed, row.nonempty, rfl⟩

theorem Sound.remove {s : Store} (sound : s.Sound) (name : Text) (now : Int) :
    (s.mapRows name fun r =>
      if r.deleted then r else { r with removedAt := now, deleted := true }).Sound := by
  apply sound.mapRows
  · intro r
    split <;> rfl
  · intro r row
    split
    · exact row
    · exact ⟨row.trimmed, row.nonempty, row.fingerprinted⟩

theorem Sound.nodup_liveNames {s : Store} (sound : s.Sound) :
    ((s.rows.filter fun r => !r.deleted).map (·.name)).Nodup :=
  sound.distinct.sublist (List.filter_sublist.map _)

/-! ## Names in order -/

theorem precedes_iff_lt (a b : Text) : Text.precedes a b = true ↔ a < b := by
  induction a generalizing b with
  | nil => cases b <;> simp [Text.precedes]
  | cons x a ih =>
    cases b with
    | nil => simp [Text.precedes]
    | cons y b => simp [Text.precedes, ih, List.cons_lt_cons_iff]

theorem insertName_eq (name : Text) (sorted : List Text) :
    insertName name sorted = sorted.orderedInsert (· ≤ ·) name := by
  induction sorted with
  | nil => rfl
  | cons other rest ih =>
    rw [insertName, List.orderedInsert_cons, ih]
    by_cases before : other < name
    · rw [if_pos ((precedes_iff_lt other name).mpr before), if_neg (List.not_le.mpr before)]
    · rw [if_neg (fun found => before ((precedes_iff_lt other name).mp found)),
        if_pos (List.not_lt.mp before)]

theorem foldr_insertName (names : List Text) :
    names.foldr insertName [] = names.insertionSort (· ≤ ·) := by
  induction names with
  | nil => rfl
  | cons name rest ih => rw [List.foldr_cons, ih, insertName_eq, List.insertionSort_cons]

def Keeps (s : Store) (name source : Text) : Prop :=
  ∃ r ∈ s.rows, r.name = name ∧ r.deleted = false ∧ r.source = source

theorem keeps_mapRows_ne {s : Store} {name other source : Text} {change : Row → Row}
    (named : ∀ r, (change r).name = r.name) (apart : other ≠ name) :
    (s.mapRows name change).Keeps other source ↔ s.Keeps other source := by
  constructor
  · rintro ⟨r', member, rfl, kept⟩
    obtain ⟨r, inside, rfl⟩ := List.mem_map.mp member
    by_cases here : r.name = name
    · simp [here, named] at apart
    · simp only [beq_iff_eq, here, if_false] at kept ⊢
      exact ⟨r, inside, rfl, kept⟩
  · rintro ⟨r, inside, rfl, kept⟩
    refine ⟨r, List.mem_map.mpr ⟨r, inside, ?_⟩, rfl, kept⟩
    simp [apart]

theorem keeps_mapRows {s : Store} {name source : Text} {change : Row → Row}
    (named : ∀ r, (change r).name = r.name) :
    (s.mapRows name change).Keeps name source ↔
      ∃ r ∈ s.rows, r.name = name ∧ (change r).deleted = false ∧ (change r).source = source := by
  constructor
  · rintro ⟨r', member, same, kept⟩
    obtain ⟨r, inside, rfl⟩ := List.mem_map.mp member
    by_cases here : r.name = name
    · simp only [beq_iff_eq, here, if_true] at kept
      exact ⟨r, inside, here, kept⟩
    · simp [here] at same
  · rintro ⟨r, inside, here, kept⟩
    refine ⟨change r, List.mem_map.mpr ⟨r, inside, ?_⟩, (named r).trans here, kept⟩
    simp [here]

/-! ## One call -/

theorem Name.of?_eq_none {t : Text} (empty : Text.trim t = []) : Name.of? t = none :=
  dif_pos empty

theorem Name.exists_of? {t : Text} (left : Text.trim t ≠ []) :
    ∃ name, Name.of? t = some name ∧ name.text = Text.trim t :=
  ⟨_, dif_neg left, rfl⟩

theorem Name.ext_text {n n' : Name} (same : n.text = n'.text) : n = n' := by
  cases n
  cases n'
  cases same
  rfl

/-- `s.Represents c`: the live rows of the store are the programs of the catalog. -/
structure Represents (s : Store) (c : Catalog) : Prop where
  sound : s.Sound
  opened : s.closed = false
  lookup : ∀ (n : Name) (source : Text), c.lookup n = some source ↔ s.Keeps n.text source

theorem represents_empty : empty.Represents ∅ where
  sound := sound_empty
  opened := rfl
  lookup := by simp [Keeps, empty]

section

variable {s : Store} {c : Catalog}

theorem Represents.obstacle? (represents : s.Represents c) (now : Int) :
    s.obstacle? ⟨now, false⟩ = none := by
  rw [Store.obstacle?, represents.opened]
  rfl

theorem Represents.find?_of_live (represents : s.Represents c) {t : Text} {r : Row}
    (live : s.live? (Text.trim t) = some r) :
    ∃ name, name.text = r.name ∧ c.find? t = some (name, r.source) := by
  obtain ⟨member, named, undeleted⟩ := represents.sound.live?_eq_some_iff.mp live
  have left : Text.trim t ≠ [] := by
    rw [← named]
    exact (represents.sound.rows r member).nonempty
  obtain ⟨name, stands, same⟩ := Name.exists_of? left
  have found : c.lookup name = some r.source :=
    (represents.lookup name r.source).mpr ⟨r, member, named.trans same.symm, undeleted, rfl⟩
  refine ⟨name, same.trans named.symm, ?_⟩
  simp [Catalog.find?, stands, found]

theorem Represents.find?_of_absent (represents : s.Represents c) {t : Text}
    (absent : s.live? (Text.trim t) = none) : c.find? t = none := by
  cases stands : Name.of? t with
  | none => simp [Catalog.find?, stands]
  | some name =>
    have left : Text.trim t ≠ [] := by
      intro empty
      rw [Name.of?_eq_none empty] at stands
      cases stands
    obtain ⟨name', stands', same⟩ := Name.exists_of? left
    cases stands.symm.trans stands'
    cases found : c.lookup name with
    | none => simp [Catalog.find?, stands, found]
    | some source =>
      obtain ⟨r, member, named, undeleted, _⟩ := (represents.lookup name source).mp found
      have live := represents.sound.live?_eq_some_iff.mpr ⟨member, named.trans same, undeleted⟩
      rw [absent] at live
      cases live

theorem Represents.insert (represents : s.Represents c) {after : Store} {name : Name} {source : Text}
    (sound : after.Sound) (opened : after.closed = false)
    (here : ∀ x, after.Keeps name.text x ↔ x = source)
    (elsewhere : ∀ other x, other ≠ name.text → (after.Keeps other x ↔ s.Keeps other x)) :
    after.Represents (c.insert name source) := by
  refine ⟨sound, opened, ?_⟩
  intro n x
  by_cases same : n = name
  · subst same
    rw [Finmap.lookup_insert, here, Option.some.injEq, eq_comm]
  · have apart : n.text ≠ name.text := fun texts => same (Name.ext_text texts)
    rw [Finmap.lookup_insert_of_ne c same, elsewhere _ x apart]
    exact represents.lookup n x

theorem Represents.erase (represents : s.Represents c) {after : Store} {name : Name}
    (sound : after.Sound) (opened : after.closed = false)
    (here : ∀ x, ¬after.Keeps name.text x)
    (elsewhere : ∀ other x, other ≠ name.text → (after.Keeps other x ↔ s.Keeps other x)) :
    after.Represents (c.erase name) := by
  refine ⟨sound, opened, ?_⟩
  intro n x
  by_cases same : n = name
  · subst same
    rw [Finmap.lookup_erase]
    simp [here]
  · have apart : n.text ≠ name.text := fun texts => same (Name.ext_text texts)
    rw [Finmap.lookup_erase_ne same, elsewhere _ x apart]
    exact represents.lookup n x

/-- A call to the store and to the catalog gets the same answer, and they go on standing for each
other. -/
def Agree (s : Store) (c : Catalog) (call : Call) : Prop :=
  (s.reply call).2 = (c.reply call).2 ∧ (s.reply call).1.Represents (c.reply call).1

theorem Represents.revise (represents : s.Represents c) (now : Int) (name : Name) (source : Text)
    {old : Row} (present : s.row? name.text = some old) :
    (s.mapRows name.text fun r => r.revise source now).Represents (c.insert name source) := by
  have names : ∀ r : Row, (r.revise source now).name = r.name := fun r => rfl
  refine represents.insert (represents.sound.revise name.text source now) represents.opened ?_ ?_
  · intro x
    have member := List.mem_of_find?_eq_some present
    have named : old.name = name.text := by simpa using List.find?_some present
    rw [keeps_mapRows names]
    constructor
    · rintro ⟨r, _, _, _, rfl⟩
      rfl
    · rintro rfl
      exact ⟨old, member, named, rfl, rfl⟩
  · intro other x apart
    exact keeps_mapRows_ne names apart

theorem Represents.create (represents : s.Represents c) (now : Int) (name : Name) (source : Text)
    (absent : s.row? name.text = none) :
    Represents { s with rows := s.rows ++ [Row.create name.text source now] }
      (c.insert name source) := by
  have fresh := row?_eq_none_iff.mp absent
  refine represents.insert (represents.sound.create name source now fresh) represents.opened ?_ ?_
  · intro x
    simp only [Keeps, List.mem_append, List.mem_singleton]
    constructor
    · rintro ⟨r, old | rfl, named, _, rfl⟩
      · exact absurd named (fresh r old)
      · rfl
    · rintro rfl
      exact ⟨_, .inr rfl, rfl, rfl, rfl⟩
  · intro other x apart
    simp only [Keeps, List.mem_append, List.mem_singleton]
    constructor
    · rintro ⟨r, old | rfl, named, kept⟩
      · exact ⟨r, old, named, kept⟩
      · exact absurd named.symm apart
    · rintro ⟨r, old, kept⟩
      exact ⟨r, .inl old, kept⟩

theorem Represents.save (represents : s.Represents c) (now : Int) (t source : Text) :
    Agree s c (.save now t source) := by
  by_cases empty : Text.trim t = []
  · have refused : s.save ⟨now, false⟩ t source = .error .emptyName := by simp [Store.save, empty]
    rw [Agree, Store.reply, Catalog.reply, Name.of?_eq_none empty, refused]
    exact ⟨rfl, represents⟩
  · obtain ⟨name, stands, same⟩ := Name.exists_of? empty
    rw [Agree, Store.reply, Catalog.reply, stands]
    -- Whether a row is there at all depends on purges; the catalog is the same in both cases.
    cases row : s.row? name.text with
    | some old =>
      have saved : s.save ⟨now, false⟩ t source =
          .ok (s.mapRows name.text fun r => r.revise source now) := by
        rw [same] at row ⊢
        simp [Store.save, empty, represents.obstacle?, row]
      rw [saved]
      exact ⟨rfl, represents.revise now name source row⟩
    | none =>
      have saved : s.save ⟨now, false⟩ t source =
          .ok { s with rows := s.rows ++ [Row.create name.text source now] } := by
        rw [same] at row ⊢
        simp [Store.save, empty, represents.obstacle?, row]
      rw [saved]
      exact ⟨rfl, represents.create now name source row⟩

theorem Represents.load (represents : s.Represents c) (now : Int) (t : Text) :
    Agree s c (.load now t) := by
  rw [Agree, Store.reply, Catalog.reply, Store.load, represents.obstacle?]
  cases live : s.live? (Text.trim t) with
  | none =>
    rw [represents.find?_of_absent live]
    exact ⟨rfl, represents⟩
  | some r =>
    obtain ⟨name, named, found⟩ := represents.find?_of_live live
    obtain ⟨member, _⟩ := represents.sound.live?_eq_some_iff.mp live
    rw [found]
    refine ⟨?_, represents⟩
    simp only [Except.map, Row.copy]
    rw [named, (represents.sound.rows r member).fingerprinted]

theorem Represents.delete (represents : s.Represents c) (now : Int) (t : Text) :
    Agree s c (.delete now t) := by
  rw [Agree, Store.reply, Catalog.reply, Store.delete, represents.obstacle?]
  cases live : s.live? (Text.trim t) with
  | none =>
    rw [represents.find?_of_absent live]
    exact ⟨rfl, represents⟩
  | some r =>
    obtain ⟨name, named, found⟩ := represents.find?_of_live live
    obtain ⟨_, same, _⟩ := represents.sound.live?_eq_some_iff.mp live
    rw [found]
    have names : ∀ r : Row,
        (if r.deleted then r else { r with removedAt := now, deleted := true }).name = r.name := by
      intro r
      split <;> rfl
    have sound := represents.sound.remove (Text.trim t) now
    refine ⟨rfl, represents.erase sound represents.opened ?_ ?_⟩
    · intro x
      rw [named, same, keeps_mapRows names]
      rintro ⟨r, _, _, undeleted, _⟩
      split at undeleted
      · rename_i deleted
        rw [deleted] at undeleted
        cases undeleted
      · cases undeleted
    · intro other x apart
      rw [named, same] at apart
      exact keeps_mapRows_ne names apart

theorem Represents.purge (represents : s.Represents c) (now before : Int) :
    Agree s c (.purge now before) := by
  rw [Agree, Store.reply, Catalog.reply, Store.purge, represents.obstacle?]
  refine ⟨rfl, represents.sound.filter _, represents.opened, ?_⟩
  intro n x
  rw [represents.lookup n x]
  constructor
  · rintro ⟨r, member, named, live, kept⟩
    refine ⟨r, List.mem_filter.mpr ⟨member, ?_⟩, named, live, kept⟩
    simp [Row.expired, live]
  · rintro ⟨r, member, kept⟩
    exact ⟨r, List.mem_of_mem_filter member, kept⟩

theorem Represents.mem_liveNames (represents : s.Represents c) (t : Text) :
    t ∈ (s.rows.filter fun r => !r.deleted).map (·.name) ↔ ∃ n ∈ c.keys, n.text = t := by
  simp only [List.mem_map, List.mem_filter, Bool.not_eq_true', Finmap.mem_keys, Finmap.mem_iff]
  constructor
  · rintro ⟨r, ⟨member, live⟩, rfl⟩
    have sound := represents.sound.rows r member
    let name : Name := ⟨r.name, sound.trimmed, sound.nonempty⟩
    exact ⟨name, ⟨r.source, (represents.lookup name r.source).mpr ⟨r, member, rfl, live, rfl⟩⟩, rfl⟩
  · rintro ⟨n, ⟨source, found⟩, rfl⟩
    obtain ⟨r, member, named, live, _⟩ := (represents.lookup n source).mp found
    exact ⟨r, ⟨member, live⟩, named⟩

theorem Represents.sorted_liveNames (represents : s.Represents c) :
    ((s.rows.filter fun r => !r.deleted).map (·.name)).insertionSort (· ≤ ·) = c.names := by
  have shuffled := List.perm_insertionSort (· ≤ ·)
    ((s.rows.filter fun r => !r.deleted).map (·.name))
  have same : (List.insertionSort (· ≤ ·)
      ((s.rows.filter fun r => !r.deleted).map (·.name))).Perm c.names := by
    have nodup : c.names.Nodup := Finset.sort_nodup _ _
    rw [List.perm_ext_iff_of_nodup (shuffled.nodup_iff.mpr represents.sound.nodup_liveNames) nodup]
    intro t
    rw [shuffled.mem_iff, represents.mem_liveNames, Catalog.names, Finset.mem_sort,
      Finset.mem_image]
  exact List.Perm.eq_of_pairwise (fun _ _ _ _ => List.le_antisymm)
    (List.pairwise_insertionSort _ _) (Finset.pairwise_sort _ _) same

theorem Represents.list (represents : s.Represents c) (now : Int) : Agree s c (.list now) := by
  rw [Agree, Store.reply, Catalog.reply, Store.list, represents.obstacle?, foldr_insertName,
    represents.sorted_liveNames]
  exact ⟨rfl, represents⟩

theorem Represents.agree (represents : s.Represents c) (call : Call) : Agree s c call := by
  cases call with
  | save now name source => exact represents.save now name source
  | load now name => exact represents.load now name
  | delete now name => exact represents.delete now name
  | list now => exact represents.list now
  | purge now before => exact represents.purge now before

/-! ## All calls -/

theorem Represents.answers (represents : s.Represents c) (calls : List Call) :
    s.answers calls = c.answers calls := by
  induction calls generalizing s c with
  | nil => rfl
  | cons call rest ih =>
    obtain ⟨same, after⟩ := represents.agree call
    rw [Store.answers, Catalog.answers, same, ih after]

theorem Catalog.answers_unpurged (c : Catalog) (calls : List Call) :
    c.answers (calls.filter fun call => !call.purges) = c.answers calls := by
  induction calls generalizing c with
  | nil => rfl
  | cons call rest ih =>
    cases call with
    | purge now before => exact ih c
    | save now name source => exact congrArg (_ ++ ·) (ih _)
    | load now name => exact congrArg (_ ++ ·) (ih _)
    | delete now name => exact congrArg (_ ++ ·) (ih _)
    | list now => exact congrArg (_ ++ ·) (ih _)

end

/-- Whatever is asked of a store that starts empty, it answers like a finite map from trimmed names to
sources: saving inserts or overwrites, loading gives the source with its fingerprint, deleting
removes, listing gives all names in bytewise order. Purges make no difference, wherever they stand. -/
theorem store_answers_like_catalog (calls : List Call) :
    empty.answers calls = Catalog.answers ∅ calls ∧
      empty.answers (calls.filter fun call => !call.purges) = empty.answers calls := by
  have same : ∀ calls, empty.answers calls = Catalog.answers ∅ calls :=
    represents_empty.answers
  refine ⟨same calls, ?_⟩
  calc empty.answers (calls.filter fun call => !call.purges)
      = Catalog.answers ∅ (calls.filter fun call => !call.purges) := same _
    _ = Catalog.answers ∅ calls := Catalog.answers_unpurged ∅ calls
    _ = empty.answers calls := (same calls).symm

end Store

end TurtleLogo
