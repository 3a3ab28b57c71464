import DeviceGate.Audit.Trail
import DeviceGate.Proofs.Json.Same

/-!
Events on their way to the trail.

* `AuditEvent.lookup_putDetail`: what is looked up in the details of an event.
* `AuditEvent.retold`: an event with another value of one detail.
* `AuditTrail.ofKind_deliverAll`: events of other kinds do not change what is recorded of a kind.
* `AuditTrail.deliverAll_append`, `AuditTrail.deliverAll_memory`: several events in two portions,
  and what a sink in memory makes of them.
* `AuditTrail.fresh`: a trail that loses nothing.
-/

namespace DeviceGate

/-! ### Details -/

namespace AuditEvent

/-- A detail that was put is looked up, and the others as before. -/
lemma lookup_putDetail (key value other : String) (l : List (String × String)) :
    (putDetail key value l).lookup other = if other = key then some value else l.lookup other := by
  induction l with
  | nil => rw [putDetail, Json.lookup_cons_ite]
  | cons head rest ih =>
      obtain ⟨k, v⟩ := head
      simp only [putDetail, apply_ite (List.lookup other), Json.lookup_cons_ite, ih]
      grind

lemma map_putDetail (f : String → String → String) (key value : String)
    (l : List (String × String)) :
    (putDetail key value l).map (fun d => (d.1, f d.1 d.2)) =
      putDetail key (f key value) (l.map fun d => (d.1, f d.1 d.2)) := by
  induction l with
  | nil => rfl
  | cons head rest ih =>
      simp only [putDetail, List.map_cons]
      split_ifs
      · rfl
      · rfl
      · rw [List.map_cons, ih]

/-- The event with another value under a key, if it has a detail of that key. -/
def retold (key value : String) (e : AuditEvent) : AuditEvent :=
  { e with details := e.details.map fun d => (d.1, if d.1 = key then value else d.2) }

section Retold

variable (key value : String) (e : AuditEvent)

@[simp] lemma retold_of (kind : AuditKind) (description : String) :
    (of kind description).retold key value = of kind description :=
  rfl

@[simp] lemma retold_byActor (actor : Option String) :
    (e.byActor actor).retold key value = (e.retold key value).byActor actor :=
  rfl

@[simp] lemma retold_graded (severity : Severity) :
    (e.graded severity).retold key value = (e.retold key value).graded severity :=
  rfl

/-- Of all details, only the one of that key gets another value. -/
@[simp] lemma retold_detail (k v : String) :
    (e.detail k v).retold key value =
      (e.retold key value).detail k (if k = key then value else v) := by
  simp only [retold, detail, map_putDetail fun k v => if k = key then value else v]

end Retold

end AuditEvent

/-! ### Trails -/

namespace AuditTrail

variable {trail : AuditTrail}

lemma ofKind_deliver {e : AuditEvent} {kind : AuditKind} (h : e.kind ≠ kind) :
    (trail.deliver e).1.ofKind kind = trail.ofKind kind := by
  rw [deliver]
  split
  · simp [ofKind, h]
  · rfl
  · rfl
  · rfl

/-- Events of other kinds do not change what is recorded of a kind. -/
lemma ofKind_deliverAll {es : List AuditEvent} {kind : AuditKind} (h : ∀ e ∈ es, e.kind ≠ kind) :
    (trail.deliverAll es).1.ofKind kind = trail.ofKind kind := by
  induction es generalizing trail with
  | nil => rfl
  | cons e rest ih =>
      have hrest : ∀ e' ∈ rest, e'.kind ≠ kind := fun e' he' => h e' (List.mem_cons_of_mem _ he')
      calc (trail.deliverAll (e :: rest)).1.ofKind kind
          = ((trail.deliver e).1.deliverAll rest).1.ofKind kind := rfl
        _ = (trail.deliver e).1.ofKind kind := ih hrest
        _ = trail.ofKind kind := ofKind_deliver (h e List.mem_cons_self)

@[simp] lemma deliverAll_nil : (trail.deliverAll []).1 = trail :=
  rfl

@[simp] lemma deliverAll_cons (e : AuditEvent) (es : List AuditEvent) :
    (trail.deliverAll (e :: es)).1 = ((trail.deliver e).1.deliverAll es).1 :=
  rfl

lemma deliverAll_append (es es' : List AuditEvent) :
    (trail.deliverAll (es ++ es')).1 = ((trail.deliverAll es).1.deliverAll es').1 := by
  induction es generalizing trail with
  | nil => rfl
  | cons e es ih => simp only [List.cons_append, deliverAll_cons, ih]

/-- A sink in memory records all the events while it works, and counts them while it does not. -/
lemma deliverAll_memory {failing : Bool} (h : trail.sink = .memory failing)
    (es : List AuditEvent) :
    (trail.deliverAll es).1 =
      if failing then { trail with failed := trail.failed + es.length }
      else { trail with recorded := trail.recorded ++ es } := by
  induction es generalizing trail with
  | nil => simp
  | cons e es ih =>
      rw [deliverAll_cons, ih ((sink_deliver trail e).trans h)]
      cases failing with
      | true => simp [deliver, h, Nat.add_right_comm, Nat.add_assoc]
      | false => simp [deliver, h]

/-- A trail that has recorded nothing yet, and loses nothing. -/
def fresh : AuditTrail where
  sink := .memory false

lemma deliverAll_fresh (es : List AuditEvent) :
    (fresh.deliverAll es).1 = { fresh with recorded := es } := by
  rw [deliverAll_memory (show fresh.sink = .memory false from rfl)]
  rfl

end AuditTrail

end DeviceGate
