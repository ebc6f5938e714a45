import CheckedSql.Observation.Tracker

namespace CheckedSql

open Text

namespace Tracker

variable {Target : Type}

/-- A call on a tracker. -/
inductive Request (Target : Type) where
  | subscribe (tables : NameSet) (target : Target)
  | unsubscribe (handle : Nat)
  | notify (changed : List String)

namespace Request

def subscribes : Request Target → Bool
  | .subscribe _ _ => true
  | .unsubscribe _ | .notify _ => false

/-- Whether a call gives this handle back. -/
def releases (handle : Nat) : Request Target → Bool
  | .unsubscribe other => decide (other = handle)
  | .subscribe _ _ | .notify _ => false

end Request

def after (tracker : Tracker Target) : Request Target → Tracker Target
  | .subscribe tables target => (tracker.subscribe tables target).2
  | .unsubscribe handle => tracker.unsubscribe handle
  | .notify _ => tracker

def run (tracker : Tracker Target) (requests : List (Request Target)) : Tracker Target :=
  requests.foldl after tracker

/-- The handles that the subscriptions of a run are given, in their order. -/
def given (tracker : Tracker Target) : List (Request Target) → List Nat
  | [] => []
  | .subscribe tables target :: rest =>
      (tracker.subscribe tables target).1 :: (tracker.subscribe tables target).2.given rest
  | .unsubscribe handle :: rest => (tracker.unsubscribe handle).given rest
  | .notify _ :: rest => tracker.given rest

/-- Whether no call gives this handle back. -/
def keeps (requests : List (Request Target)) (handle : Nat) : Bool :=
  requests.all fun request => !request.releases handle

/-- The subscriptions whose handle is not given back after them, counted from `next`. -/
def standing (next : Nat) : List (Request Target) → List (Watcher Target)
  | [] => []
  | .subscribe tables target :: rest =>
      if keeps rest next then ⟨next, tables, target⟩ :: standing (next + 1) rest
      else standing (next + 1) rest
  | .unsubscribe _ :: rest | .notify _ :: rest => standing next rest

section Runs

theorem given_eq_range' (tracker : Tracker Target) (requests : List (Request Target)) :
    tracker.given requests = List.range' tracker.next (requests.countP Request.subscribes) := by
  induction requests generalizing tracker with
  | nil => rfl
  | cons request rest ih =>
      cases request with
      | subscribe tables target =>
          rw [given, ih, List.countP_cons_of_pos rfl, List.range'_succ]
          rfl
      | unsubscribe handle =>
          rw [given, ih, List.countP_cons_of_neg (by simp [Request.subscribes])]
          rfl
      | notify changed => rw [given, ih, List.countP_cons_of_neg (by simp [Request.subscribes])]

/-- The watchers of a tracker stay until their handles are given back, and those that
stand of the calls join them. -/
theorem watchers_run (tracker : Tracker Target) (requests : List (Request Target)) :
    (tracker.run requests).watchers =
      tracker.watchers.filter (keeps requests ·.handle) ++ standing tracker.next requests := by
  induction requests generalizing tracker with
  | nil =>
      rw [standing, List.append_nil]
      exact (List.filter_eq_self.mpr fun _ _ => rfl).symm
  | cons request rest ih =>
      have step : tracker.run (request :: rest) = (tracker.after request).run rest := rfl
      rw [step, ih]
      cases request with
      | subscribe tables target =>
          have kept : keeps (.subscribe tables target :: rest) = keeps rest := rfl
          rw [standing, kept, after, subscribe, List.filter_append, List.append_assoc]
          cases stays : keeps rest tracker.next <;> simp [stays]
      | unsubscribe handle =>
          have kept (watcher : Watcher Target) :
              keeps (.unsubscribe handle :: rest) watcher.handle =
                (decide (watcher.handle ≠ handle) && keeps rest watcher.handle) := by
            simp [keeps, Request.releases, eq_comm]
          rw [standing, funext kept, after, unsubscribe, List.filter_filter]
          simp only [Bool.and_comm]
      | notify changed => rfl

theorem wellFormed_after {tracker : Tracker Target} (wellFormed : tracker.WellFormed)
    (request : Request Target) : (tracker.after request).WellFormed := by
  cases request with
  | subscribe tables target => exact wellFormed_subscribe wellFormed tables target
  | unsubscribe handle => exact wellFormed_unsubscribe wellFormed handle
  | notify => exact wellFormed

theorem wellFormed_run {tracker : Tracker Target} (wellFormed : tracker.WellFormed)
    (requests : List (Request Target)) : (tracker.run requests).WellFormed := by
  induction requests generalizing tracker with
  | nil => exact wellFormed
  | cons request rest ih => exact ih (wellFormed_after wellFormed request)

/-- Giving a handle back removes its watcher alone, if there is one. -/
theorem watchers_unsubscribe {tracker : Tracker Target} (wellFormed : tracker.WellFormed)
    {before later : List (Watcher Target)} {watcher : Watcher Target}
    (watchers : tracker.watchers = before ++ watcher :: later) :
    (tracker.unsubscribe watcher.handle).watchers = before ++ later := by
  obtain ⟨_, apart⟩ := wellFormed
  rw [watchers] at apart
  obtain ⟨_, behind, ahead⟩ := List.pairwise_append.mp apart
  have earlier : ∀ other ∈ before, decide (other.handle ≠ watcher.handle) = true :=
    fun other member => decide_eq_true (ahead other member watcher List.mem_cons_self)
  have following : ∀ other ∈ later, decide (other.handle ≠ watcher.handle) = true :=
    fun other member => decide_eq_true ((List.pairwise_cons.mp behind).1 other member).symm
  rw [unsubscribe, watchers, List.filter_append, List.filter_cons_of_neg (by simp),
    List.filter_eq_self.mpr earlier, List.filter_eq_self.mpr following]

theorem unsubscribe_unknown {tracker : Tracker Target} {handle : Nat}
    (unknown : handle ∉ tracker.watchers.map Watcher.handle) :
    tracker.unsubscribe handle = tracker := by
  have kept : tracker.watchers.filter (·.handle ≠ handle) = tracker.watchers := by
    refine List.filter_eq_self.mpr fun watcher member => decide_eq_true ?_
    rintro rfl
    exact unknown (List.mem_map_of_mem member)
  rw [unsubscribe, kept]

end Runs

/-- Whether a watcher watches some of the changed tables. -/
def Watches (changed : List String) (watcher : Watcher Target) : Prop :=
  ∃ table ∈ watcher.tables.names, ∃ other ∈ changed, SameName table other

instance (changed : List String) (watcher : Watcher Target) :
    Decidable (Watches changed watcher) :=
  inferInstanceAs (Decidable (∃ table ∈ watcher.tables.names, ∃ other ∈ changed,
    SameName table other))

theorem sharesTable_ofList {changed : List String} {watcher : Watcher Target} :
    sharesTable watcher.tables (.ofList changed) = true ↔ Watches changed watcher := by
  rw [sharesTable_iff]
  simp only [NameSet.mem_ofList]
  constructor
  · rintro ⟨table, member, other, among, same⟩
    exact ⟨table, member, other, among, same.symm⟩
  · rintro ⟨table, member, other, among, same⟩
    exact ⟨table, member, other, among, same.symm⟩

theorem notify_eq (tracker : Tracker Target) (changed : List String) :
    tracker.notify changed =
      ((tracker.watchers.filter (Watches changed ·)).map (·.target, .ofList changed),
        (tracker.watchers.filter (Watches changed ·)).length) := by
  have told : (fun watcher : Watcher Target => sharesTable watcher.tables (.ofList changed)) =
      fun watcher => decide (Watches changed watcher) :=
    funext fun watcher => Bool.eq_iff_iff.mpr (sharesTable_ofList.trans decide_eq_true_iff.symm)
  rw [notify, signalled, told, List.map_map, List.length_map]
  rfl

/-- What the calls on a tracker do after others. -/
structure Serves (requests : List (Request Target)) : Prop where
  /-- No handle is given twice, and none reaches the number of subscriptions. -/
  handles : (empty.given requests).Nodup ∧
    ∀ handle ∈ empty.given requests, handle < requests.countP Request.subscribes
  registered : (empty.run requests).watchers = standing 0 requests
  distinct : ((standing 0 requests).map Watcher.handle).Nodup
  counted : (empty.run requests).count = (standing 0 requests).length
  removes : ∀ before watcher later, standing 0 requests = before ++ watcher :: later →
    ((empty.run requests).unsubscribe watcher.handle).watchers = before ++ later
  ignores : ∀ handle, handle ∉ (standing 0 requests).map Watcher.handle →
    (empty.run requests).unsubscribe handle = empty.run requests
  /-- Those who stand and watch a changed table are called once each, with these tables and
  in any order. -/
  notifies : ∀ changed, ∃ tables : NameSet, (∀ name, name ∈ tables ↔ name ∈ changed) ∧
    ((empty.run requests).notify changed).1.Perm
      (((standing 0 requests).filter (Watches changed ·)).map (·.target, tables)) ∧
    ((empty.run requests).notify changed).2 =
      ((standing 0 requests).filter (Watches changed ·)).length

theorem tracker_serves (requests : List (Request Target)) : Serves requests := by
  have watchers : (empty.run requests).watchers = standing 0 requests := watchers_run empty requests
  have wellFormed : (empty.run requests).WellFormed := wellFormed_run wellFormed_empty requests
  have given : empty.given requests = List.range (requests.countP Request.subscribes) := by
    rw [given_eq_range', List.range_eq_range']
    rfl
  constructor
  case handles =>
    rw [given]
    exact ⟨List.nodup_range, fun handle member => List.mem_range.mp member⟩
  case registered => exact watchers
  case distinct =>
    rw [← watchers]
    exact List.pairwise_map.mpr wellFormed.2
  case counted => rw [count, watchers]
  case removes =>
    intro before watcher later stand
    exact watchers_unsubscribe wellFormed (watchers.trans stand)
  case ignores =>
    intro handle unknown
    rw [← watchers] at unknown
    exact unsubscribe_unknown unknown
  case notifies =>
    intro changed
    rw [← watchers, notify_eq]
    exact ⟨.ofList changed, fun _ => NameSet.mem_ofList, .refl _, rfl⟩

/-- A handle that is given back twice ends one subscription. -/
example :
    let watch (target : String) : Request String := .subscribe (.ofList ["song"]) target
    (empty.run [watch "first", .unsubscribe 0, watch "second", .unsubscribe 0]).notify
      ["album", "SONG", "album"] = ([("second", .ofList ["SONG", "album"])], 1) := by
  decide +kernel

end Tracker

end CheckedSql
