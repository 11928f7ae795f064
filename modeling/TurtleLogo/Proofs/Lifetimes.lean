import TurtleLogo.Proofs.Catalog

/-!
# The lifetimes of rows

A row of the store is made by the first save under its name, revised by later ones, marked by a
delete and brought back by a save, until a purge removes it. Its marks tell this history: a live row
has no time of removal, a deleted one has the second of the delete that removed it, and the time of
creation stays as it was made. Clocks are read to the nanosecond but kept in whole seconds, rounded
down. As both sides of the comparison are, a purge never removes a row too early.
-/

set_option autoImplicit false

namespace TurtleLogo

namespace Store

structure Instant where
  nanoseconds : Int
  deriving DecidableEq

namespace Instant

instance : LE Instant :=
  ⟨fun i j => i.nanoseconds ≤ j.nanoseconds⟩

def second (i : Instant) : Int :=
  i.nanoseconds / 1000000000

theorem second_mono {i j : Instant} (le : i ≤ j) : i.second ≤ j.second :=
  Int.ediv_le_ediv (by decide) le

end Instant

inductive Errand where
  | save (name source : Text)
  | load (name : Text)
  | delete (name : Text)
  | list
  | purge (before : Instant)

structure Visit where
  instant : Instant
  canceled : Bool
  errand : Errand

namespace Visit

def moment (v : Visit) : Moment :=
  ⟨v.instant.second, v.canceled⟩

def Saves (v : Visit) (name source : Text) : Prop :=
  ∃ t, v.errand = .save t source ∧ Text.trim t = name

def Deletes (v : Visit) (name : Text) : Prop :=
  ∃ t, v.errand = .delete t ∧ Text.trim t = name

end Visit

def attend (s : Store) (v : Visit) : Store :=
  match v.errand with
  | .save name source =>
    match s.save v.moment name source with
    | .ok after => after
    | .error _ => s
  | .load _ => s
  | .delete name =>
    match s.delete v.moment name with
    | .ok after => after
    | .error _ => s
  | .list => s
  | .purge before =>
    match s.purge v.moment before.second with
    | .ok (_, after) => after
    | .error _ => s

def visited (history : List Visit) : Store :=
  history.foldl attend empty

theorem visited_snoc (history : List Visit) (v : Visit) :
    visited (history ++ [v]) = (visited history).attend v := by
  simp [visited]

/-! ## One visit -/

def Row.removed (r : Row) (now : Int) : Row :=
  { r with removedAt := now, deleted := true }

inductive Attended (s : Store) (v : Visit) : Store → Prop
  | unchanged : Attended s v s
  | revised {t source : Text} (errand : v.errand = .save t source) :
      Attended s v (s.mapRows (Text.trim t) fun r => r.revise source v.instant.second)
  | created {t source : Text} (errand : v.errand = .save t source) (left : Text.trim t ≠ [])
      (absent : s.row? (Text.trim t) = none) :
      Attended s v
        { s with rows := s.rows ++ [Row.create (Text.trim t) source v.instant.second] }
  | removed {t : Text} (errand : v.errand = .delete t) :
      Attended s v (s.mapRows (Text.trim t) fun r =>
        if r.deleted then r else r.removed v.instant.second)
  | purged {before : Instant} (errand : v.errand = .purge before) :
      Attended s v { s with rows := s.rows.filter fun r => !r.expired before.second }

section

variable {s after : Store} {v : Visit} {m : Moment} {t source : Text}

theorem save_cases (saved : s.save m t source = .ok after) :
    after = s.mapRows (Text.trim t) (fun r => r.revise source m.now) ∨
      Text.trim t ≠ [] ∧ s.row? (Text.trim t) = none ∧
        after = { s with rows := s.rows ++ [Row.create (Text.trim t) source m.now] } := by
  simp only [save, List.isEmpty_iff] at saved
  split at saved
  · cases saved
  · rename_i left
    split at saved
    · cases saved
    · split at saved
      · cases saved
        exact .inl rfl
      · rename_i absent
        cases saved
        exact .inr ⟨left, absent, rfl⟩

theorem delete_cases (deleted : s.delete m t = .ok after) :
    after = s.mapRows (Text.trim t) fun r => if r.deleted then r else r.removed m.now := by
  simp only [delete] at deleted
  split at deleted
  · cases deleted
  · split at deleted
    · cases deleted
      rfl
    · cases deleted

theorem purge_cases {before : Int} {count : Nat} (purged : s.purge m before = .ok (count, after)) :
    after = { s with rows := s.rows.filter fun r => !r.expired before } := by
  simp only [purge] at purged
  split at purged
  · cases purged
  · cases purged
    rfl

theorem attended_attend (s : Store) (v : Visit) : Attended s v (s.attend v) := by
  rw [attend]
  cases errand : v.errand with
  | save t source =>
    dsimp only
    cases saved : s.save v.moment t source with
    | error failure => exact .unchanged
    | ok after =>
      rcases save_cases saved with rfl | ⟨left, absent, rfl⟩
      · exact .revised errand
      · exact .created errand left absent
  | delete t =>
    dsimp only
    cases deleted : s.delete v.moment t with
    | error failure => exact .unchanged
    | ok after =>
      rw [delete_cases deleted]
      exact .removed errand
  | purge before =>
    dsimp only
    cases purged : s.purge v.moment before.second with
    | error failure => exact .unchanged
    | ok result =>
      obtain ⟨count, after⟩ := result
      rw [purge_cases purged]
      exact .purged errand
  | load t => exact .unchanged
  | list => exact .unchanged

theorem Attended.closed (attended : Attended s v after) : after.closed = s.closed := by
  cases attended <;> rfl

theorem Attended.sound (attended : Attended s v after) (sound : s.Sound) : after.Sound := by
  cases attended with
  | unchanged => exact sound
  | revised errand => exact sound.revise _ _ _
  | @created t source errand left absent =>
    exact sound.create ⟨Text.trim t, Text.trim_trim t, left⟩ source _ (row?_eq_none_iff.mp absent)
  | removed errand => exact sound.remove _ _
  | purged errand => exact sound.filter _

end

/-- `Arises s v r`: the row can stand in the store after a visit, on account of what stood there
before. -/
inductive Arises (s : Store) (v : Visit) : Row → Prop
  | kept {r : Row} (member : r ∈ s.rows) : Arises s v r
  | revised {r : Row} {source : Text} (member : r ∈ s.rows) (saves : v.Saves r.name source) :
      Arises s v (r.revise source v.instant.second)
  | created {name source : Text} (absent : s.row? name = none) (saves : v.Saves name source) :
      Arises s v (Row.create name source v.instant.second)
  | removed {r : Row} (member : r ∈ s.rows) (live : r.deleted = false)
      (deletes : v.Deletes r.name) : Arises s v (r.removed v.instant.second)

theorem mem_mapRows {s : Store} {name : Text} {change : Row → Row} {r' : Row}
    (member : r' ∈ (s.mapRows name change).rows) :
    r' ∈ s.rows ∨ ∃ r ∈ s.rows, r.name = name ∧ r' = change r := by
  obtain ⟨r, inside, rfl⟩ := List.mem_map.mp member
  by_cases here : r.name = name
  · exact .inr ⟨r, inside, here, by simp [here]⟩
  · exact .inl (by simpa [here] using inside)

theorem Attended.arises {s after : Store} {v : Visit} {r : Row} (attended : Attended s v after)
    (member : r ∈ after.rows) : Arises s v r := by
  cases attended with
  | unchanged => exact .kept member
  | revised errand =>
    rcases mem_mapRows member with same | ⟨old, inside, named, rfl⟩
    · exact .kept same
    · exact .revised inside ⟨_, errand, named.symm⟩
  | created errand left absent =>
    rcases List.mem_append.mp member with old | new
    · exact .kept old
    · rw [List.mem_singleton.mp new]
      exact .created absent ⟨_, errand, rfl⟩
  | removed errand =>
    rcases mem_mapRows member with same | ⟨old, inside, named, rfl⟩
    · exact .kept same
    · split
      · exact .kept inside
      · rename_i live
        exact .removed inside (by simpa using live) ⟨_, errand, named.symm⟩
  | purged errand => exact .kept (List.mem_of_mem_filter member)

/-! ## Histories -/

/-- The visit `v` of a history met a store of the one kind, and ever since it has been of the other
kind. -/
def Since (history : List Visit) (v : Visit) (met left : Store → Prop) : Prop :=
  ∃ before after, history = before ++ v :: after ∧ met (visited before) ∧
    ∀ mid, mid <+: after → left (visited (before ++ v :: mid))

theorem since_now {history : List Visit} {v : Visit} {met left : Store → Prop}
    (before : met (visited history)) (now : left (visited (history ++ [v]))) :
    Since (history ++ [v]) v met left := by
  refine ⟨history, [], rfl, before, ?_⟩
  intro mid starts
  rw [List.prefix_nil.mp starts]
  exact now

theorem Since.snoc {history : List Visit} {v v' : Visit} {met left : Store → Prop}
    (since : Since history v met left) (now : left (visited (history ++ [v']))) :
    Since (history ++ [v']) v met left := by
  obtain ⟨before, after, rfl, begun, ever⟩ := since
  refine ⟨before, after ++ [v'], by simp, begun, ?_⟩
  intro mid starts
  rcases List.prefix_concat_iff.mp starts with rfl | inside
  · simpa using now
  · exact ever mid inside

/-- `CreatedBy history r v`: the row was made by the save `v`, which met none of its name. It has
had the same time of creation ever since. -/
def CreatedBy (history : List Visit) (r : Row) (v : Visit) : Prop :=
  (∃ source, v.Saves r.name source) ∧
    Since history v (fun s => s.row? r.name = none)
      (fun s => ∃ r' ∈ s.rows, r'.name = r.name ∧ r'.createdAt = r.createdAt)

/-- `RemovedBy history r v`: the row was removed by the delete `v`, which met a live one of its
name. It has been as it is ever since. -/
def RemovedBy (history : List Visit) (r : Row) (v : Visit) : Prop :=
  v.Deletes r.name ∧
    Since history v (fun s => ∃ old ∈ s.rows, old.name = r.name ∧ old.deleted = false)
      (fun s => r ∈ s.rows)

structure Recorded (history : List Visit) : Prop where
  opened : (visited history).closed = false
  sound : (visited history).Sound
  live : ∀ r ∈ (visited history).rows, r.deleted = false → r.removedAt = 0
  created : ∀ r ∈ (visited history).rows, ∃ v, CreatedBy history r v
  removed : ∀ r ∈ (visited history).rows, r.deleted = true → ∃ v, RemovedBy history r v

theorem CreatedBy.snoc {history : List Visit} {r r' : Row} {v v' : Visit}
    (created : CreatedBy history r v) (named : r'.name = r.name)
    (dated : r'.createdAt = r.createdAt) (member : r' ∈ (visited (history ++ [v'])).rows) :
    CreatedBy (history ++ [v']) r' v := by
  obtain ⟨saves, since⟩ := created
  rw [← named] at saves
  simp only [← named, ← dated] at since
  exact ⟨saves, since.snoc ⟨r', member, rfl, rfl⟩⟩

theorem Recorded.snoc {history : List Visit} (recorded : Recorded history) (v : Visit) :
    Recorded (history ++ [v]) := by
  have attended := attended_attend (visited history) v
  have arises : ∀ r ∈ (visited (history ++ [v])).rows, Arises (visited history) v r := by
    intro r member
    rw [visited_snoc] at member
    exact attended.arises member
  constructor
  · rw [visited_snoc]
    exact attended.closed.trans recorded.opened
  · rw [visited_snoc]
    exact attended.sound recorded.sound
  · intro r member live
    cases arises r member with
    | kept old => exact recorded.live r old live
    | revised old saves => rfl
    | created absent saves => rfl
    | removed old was deletes => cases live
  · intro r member
    cases arises r member with
    | kept old =>
      obtain ⟨v', created⟩ := recorded.created r old
      exact ⟨v', created.snoc rfl rfl member⟩
    | @revised r source old saves =>
      obtain ⟨v', created⟩ := recorded.created r old
      exact ⟨v', created.snoc rfl rfl member⟩
    | @created name source absent saves =>
      exact ⟨v, ⟨source, saves⟩, since_now absent ⟨_, member, rfl, rfl⟩⟩
    | @removed r old was deletes =>
      obtain ⟨v', created⟩ := recorded.created r old
      exact ⟨v', created.snoc rfl rfl member⟩
  · intro r member deleted
    cases arises r member with
    | kept old =>
      obtain ⟨v', deletes, since⟩ := recorded.removed r old deleted
      exact ⟨v', deletes, since.snoc member⟩
    | revised old saves => cases deleted
    | created absent saves => cases deleted
    | @removed r old was deletes => exact ⟨v, deletes, since_now ⟨r, old, rfl, was⟩ member⟩

theorem recorded (history : List Visit) : Recorded history := by
  induction history using List.reverseRecOn with
  | nil =>
    refine ⟨rfl, sound_empty, ?_, ?_, ?_⟩
    all_goals
      intro r member
      cases member
  | append_singleton history v ih => exact ih.snoc v

/-- A deleted row has the second of the delete that removed it. -/
theorem RemovedBy.removedAt_eq {history : List Visit} {r : Row} {v : Visit}
    (removed : RemovedBy history r v) (deleted : r.deleted = true) :
    r.removedAt = v.instant.second := by
  obtain ⟨⟨t, errand, _⟩, before, after, rfl, ⟨old, inside, named, live⟩, ever⟩ := removed
  have member := ever [] (List.nil_prefix)
  rw [visited_snoc] at member
  -- Directly behind the delete the row is there. It is not the live one that was met, and a delete
  -- does not save, so it was removed by this visit.
  cases (attended_attend _ v).arises member with
  | kept same =>
    have equal := (recorded before).sound.eq_of_name inside same named
    rw [← equal, live] at deleted
    cases deleted
  | revised _ saves =>
    obtain ⟨_, other, _⟩ := saves
    rw [errand] at other
    cases other
  | created _ saves =>
    obtain ⟨_, other, _⟩ := saves
    rw [errand] at other
    cases other
  | removed _ _ _ => rfl

/-! ## Saves and purges at the end of a history -/

theorem obstacle?_eq_none {s : Store} {m : Moment} (opened : s.closed = false)
    (goesOn : m.canceled = false) : s.obstacle? m = none := by
  simp [obstacle?, opened, goesOn]

/-- A save under the name of a row revises it, also if the row is deleted. -/
theorem Recorded.revise_mem {history : List Visit} (recorded : Recorded history) {r : Row}
    {v : Visit} {source : Text} (member : r ∈ (visited history).rows) (goesOn : v.canceled = false)
    (saves : v.Saves r.name source) :
    r.revise source v.instant.second ∈ ((visited history).attend v).rows := by
  obtain ⟨t, errand, named⟩ := saves
  have left : Text.trim t ≠ [] := by
    rw [named]
    exact (recorded.sound.rows r member).nonempty
  have free : (visited history).obstacle? v.moment = none :=
    obstacle?_eq_none recorded.opened goesOn
  cases row : (visited history).row? (Text.trim t) with
  | none => exact absurd named.symm (row?_eq_none_iff.mp row r member)
  | some old =>
    have saved : (visited history).attend v =
        (visited history).mapRows (Text.trim t) fun r => r.revise source v.instant.second := by
      have ok : (visited history).save v.moment t source =
          .ok ((visited history).mapRows (Text.trim t) fun r => r.revise source v.moment.now) := by
        simp [save, left, free, row]
      rw [attend, errand]
      simp only [ok]
      rfl
    rw [saved]
    exact List.mem_map.mpr ⟨r, member, by simp [named]⟩

/-- `Purged s before count after`: the rows that were deleted before the given second are gone, the
others are left as they were, and `count` is the number of those that are gone. -/
structure Purged (s : Store) (before : Int) (count : Nat) (after : Store) : Prop where
  ordered : after.rows.Sublist s.rows
  left : ∀ r, r ∈ after.rows ↔ r ∈ s.rows ∧ ¬(r.deleted = true ∧ r.removedAt < before)
  counted : count = s.rows.countP fun r => decide (r ∉ after.rows)

theorem Row.expired_iff {r : Row} {before : Int} :
    r.expired before = true ↔ r.deleted = true ∧ r.removedAt < before := by
  simp [expired]

theorem exists_purged {s : Store} {m : Moment} (free : s.obstacle? m = none) (before : Int) :
    ∃ count after, s.purge m before = .ok (count, after) ∧ Purged s before count after := by
  let after : Store := { s with rows := s.rows.filter fun r => !r.expired before }
  have left : ∀ r, r ∈ after.rows ↔ r ∈ s.rows ∧ ¬(r.deleted = true ∧ r.removedAt < before) := by
    intro r
    rw [← Row.expired_iff, List.mem_filter, Bool.not_eq_true, Bool.not_eq_true']
  refine ⟨s.rows.countP (·.expired before), after, ?_, List.filter_sublist, left, ?_⟩
  · simp [purge, free, after]
  · apply List.countP_congr
    intro r member
    simp [left, member, Row.expired_iff]

/-- A row that was deleted at the given instant or later was not deleted before its second. -/
theorem RemovedBy.not_before {history : List Visit} {r : Row} {v : Visit} {before : Instant}
    (removed : RemovedBy history r v) (late : before ≤ v.instant) :
    ¬(r.deleted = true ∧ r.removedAt < before.second) := by
  rintro ⟨deleted, early⟩
  rw [removed.removedAt_eq deleted] at early
  have later := Instant.second_mono late
  omega

/-- Whatever has been asked of a store that was empty at first, and at whatever times: no two rows,
live or deleted, have the same name, names are trimmed and not empty, and fingerprints are those of
the sources. A live row has no time of removal, a deleted one has the second of the delete that
removed it. Every row has had one time of creation since the save that made it, and a save under its
name brings it back with the same one. A purge removes just the rows that were deleted before the
second of the given instant, and says how many: no live one, and none that was deleted at this
instant or later. -/
theorem rows_record_their_history (history : List Visit) :
    let s := visited history
    (s.rows.map (·.name)).Nodup ∧
      (∀ r ∈ s.rows, r.Sound ∧ (r.deleted = false → r.removedAt = 0) ∧
        (r.deleted = true → (∃ v, RemovedBy history r v) ∧
          ∀ v, RemovedBy history r v → r.removedAt = v.instant.second) ∧
        ∃ v, CreatedBy history r v) ∧
      (∀ r ∈ s.rows, ∀ v source, v.canceled = false → v.Saves r.name source →
        ∃ r' ∈ (s.attend v).rows, r'.name = r.name ∧ r'.source = source ∧ r'.deleted = false ∧
          r'.createdAt = r.createdAt) ∧
      ∀ now before : Instant, ∃ count after,
        s.purge ⟨now.second, false⟩ before.second = .ok (count, after) ∧
          Purged s before.second count after ∧ (∀ r ∈ s.rows, r.deleted = false → r ∈ after.rows) ∧
          ∀ r ∈ s.rows, ∀ v, RemovedBy history r v → before ≤ v.instant → r ∈ after.rows := by
  intro s
  have recorded := recorded history
  refine ⟨recorded.sound.distinct, ?_, ?_, ?_⟩
  · intro r member
    refine ⟨recorded.sound.rows r member, recorded.live r member, ?_, recorded.created r member⟩
    intro deleted
    refine ⟨recorded.removed r member deleted, ?_⟩
    intro v removed
    exact removed.removedAt_eq deleted
  · intro r member v source goesOn saves
    have revised := recorded.revise_mem member goesOn saves
    exact ⟨r.revise source v.instant.second, revised, rfl, rfl, rfl, rfl⟩
  · intro now before
    have free : s.obstacle? ⟨now.second, false⟩ = none := obstacle?_eq_none recorded.opened rfl
    obtain ⟨count, after, purge, purged⟩ := exists_purged free before.second
    refine ⟨count, after, purge, purged, ?_, ?_⟩
    · intro r member live
      exact (purged.left r).mpr ⟨member, by simp [live]⟩
    · intro r member v removed late
      exact (purged.left r).mpr ⟨member, removed.not_before late⟩

/-- A program is deleted, brought back and deleted again in the eighth second. A purge of what was
deleted before a later instant of that second leaves it, a purge in the next second does not. -/
theorem rows_record_their_history_revived :
    let history : List Visit :=
      [⟨⟨500000000⟩, false, .save (utf8 " a") (utf8 "FD 1")⟩,
        ⟨⟨5700000000⟩, false, .delete (utf8 "a")⟩,
        ⟨⟨6000000000⟩, false, .save (utf8 "a ") (utf8 "RT 1")⟩,
        ⟨⟨7900000000⟩, false, .delete (utf8 "a")⟩]
    ∃ r ∈ (visited history).rows, r.deleted = true ∧ r.removedAt = 7 ∧
      (∃ v, RemovedBy history r v ∧ v.instant.second = 7) ∧
      (∃ count after, (visited history).purge ⟨9, false⟩ 7 = .ok (count, after) ∧
        r ∈ after.rows) ∧
      ∃ count after, (visited history).purge ⟨9, false⟩ 8 = .ok (count, after) ∧
        r ∉ after.rows := by
  intro history
  have marks : ∃ r ∈ (visited history).rows, r.deleted = true ∧ r.removedAt = 7 := by decide +kernel
  obtain ⟨r, member, deleted, at7⟩ := marks
  obtain ⟨_, rows, _, purges⟩ := rows_record_their_history history
  obtain ⟨count, after, early, purged, _⟩ := purges ⟨9000000000⟩ ⟨7950000000⟩
  obtain ⟨count', after', late, purged', _⟩ := purges ⟨9000000000⟩ ⟨8000000000⟩
  obtain ⟨⟨v, removed⟩, dated⟩ := (rows r member).2.2.1 deleted
  refine ⟨r, member, deleted, at7, ⟨v, removed, (dated v removed).symm.trans at7⟩,
    ⟨count, after, early, ?_⟩, ⟨count', after', late, ?_⟩⟩
  · exact (purged.left r).mpr ⟨member, by simp [at7, Instant.second]⟩
  · intro left
    exact ((purged'.left r).mp left).2 ⟨deleted, by simp [at7, Instant.second]⟩

end Store

end TurtleLogo
