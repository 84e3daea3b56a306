-- SUMMARY: What is registered first stays, and what was refused leaves no trace.
import Switchboard.Actor.Basic
import Switchboard.Proofs.Keyed
import Switchboard.Sample.Handlers

/-!
# Registration

Handlers are registered one after the other, and each registration is for a post: a
method, or one of the two slots. `Actor.enrollAll` is the actor after a sequence of
registrations, of which some may have been refused; `Actor.accepted` keeps those that
were not.

Three look-ups tell all that an actor is after registrations, and each gives what the
first registration for its post brought. So the accepted registrations, whose posts
differ, make the same actor in any order (`Actor.registration_first_wins`).
-/

namespace Switchboard

/-! ## Registrations -/

/-- What something is registered for. -/
inductive Post where
  | method (name : String)
  | slot (s : Slot)
deriving DecidableEq, Repr

/-- Why nothing more is registered for a post. -/
def Post.refusal : Post → RegistrationError
  | .method name => .duplicate name
  | .slot s => .taken s

/-- What can be registered for a method: a handler, a function whose results are turned into replies, or
a function over typed parameters. -/
inductive Candidate where
  | handler (h : Handler)
  | function {α : Type} (into : α → Reply) (f : Call → List Json → Script (Outcome α))
  | typed {ts : List Type} {ρ : Type} (h : TypedHandler ts ρ)

namespace Candidate

def toHandler : Candidate → Handler
  | .handler h => h
  | .function into f => fun c params => (f c params).map fun o => o.bind fun r => .returned (into r)
  | .typed h => h.toHandler

/-- The types that it declares, if it is a typed one. -/
def shape? : Candidate → Option HandlerShape
  | .typed h => some h.shape
  | _ => none

def isTyped : Candidate → Bool
  | .typed _ => true
  | _ => false

def entry (schema : Option Json) (c : Candidate) : Entry :=
  { handler := c.toHandler, schema, shape := c.shape? }

@[simp]
theorem isSome_shape? (c : Candidate) : c.shape?.isSome = c.isTyped := by
  cases c <;> rfl

end Candidate

/-- Something to be registered with an actor. -/
inductive Registration where
  | method (name : String) (c : Candidate) (schema : Option Json)
  | missing (h : Handler)
  | close (note : Connection → String)

namespace Registration

def post : Registration → Post
  | .method name .. => .method name
  | .missing _ => .slot .missing
  | .close _ => .slot .close

def isTyped : Registration → Bool
  | .method _ c _ => c.isTyped
  | _ => false

/-- The entry that it brings for a method. -/
def entryFor (name : String) : Registration → Option Entry
  | .method name' c schema => if name' = name then some (c.entry schema) else none
  | _ => none

def missing? : Registration → Option Handler
  | .missing h => some h
  | _ => none

def close? : Registration → Option (Connection → String)
  | .close note => some note
  | _ => none

/-- Registers it with an actor. -/
def apply (a : Actor) : Registration → Except RegistrationError Actor
  | .method name c schema => a.register name (c.entry schema)
  | .missing h => a.registerMissing h
  | .close note => a.registerClose note

end Registration

namespace Actor

/-- Nothing is registered for the post. -/
def Free (a : Actor) : Post → Prop
  | .method name => a.hasMethod name = false
  | .slot .missing => a.missing = none
  | .slot .close => a.onClose = none

/-- The actor after a registration: one that is refused leaves it as it was. -/
def enroll (a : Actor) (r : Registration) : Actor :=
  match r.apply a with
  | .ok b => b
  | .error _ => a

/-- The actor after one registration after the other. -/
def enrollAll (a : Actor) (rs : List Registration) : Actor := rs.foldl enroll a

/-- Those of the registrations that are not refused. -/
def accepted (a : Actor) : List Registration → List Registration
  | [] => []
  | r :: rs =>
    match r.apply a with
    | .ok b => r :: accepted b rs
    | .error _ => accepted a rs

/-- An actor with which nothing is registered yet. -/
def fresh (validator : Option Validator) (verify : Bool) : Actor := { validator, verify }

variable {a b c : Actor} {r : Registration} {rs ss : List Registration}

/-! ## What registrations add -/

/-- The actor `b` is `a` with what the registrations bring first for each post that is free. -/
structure Adds (a : Actor) (rs : List Registration) (b : Actor) : Prop where
  entry : ∀ name, Keyed.find? name b.entries =
    (Keyed.find? name a.entries).or (rs.findSome? (Registration.entryFor name))
  missing : b.missing = a.missing.or (rs.findSome? Registration.missing?)
  onClose : b.onClose = a.onClose.or (rs.findSome? Registration.close?)
  validator : b.validator = a.validator
  verify : b.verify = a.verify
  sorted : Keyed.Sorted a.entries → Keyed.Sorted b.entries

theorem adds_nil (a : Actor) : a.Adds [] a where
  entry _ := Option.or_none.symm
  missing := Option.or_none.symm
  onClose := Option.or_none.symm
  validator := rfl
  verify := rfl
  sorted := id

theorem Adds.append (h : a.Adds rs b) (h' : b.Adds ss c) : a.Adds (rs ++ ss) c where
  entry name := by rw [h'.entry, h.entry, List.findSome?_append, Option.or_assoc]
  missing := by rw [h'.missing, h.missing, List.findSome?_append, Option.or_assoc]
  onClose := by rw [h'.onClose, h.onClose, List.findSome?_append, Option.or_assoc]
  validator := h'.validator.trans h.validator
  verify := h'.verify.trans h.verify
  sorted hs := h'.sorted (h.sorted hs)

theorem find?_eq_none_of_free {name : String} (h : a.Free (.method name)) :
    Keyed.find? name a.entries = none := by
  have hcontains : Keyed.contains name a.entries = false := h
  simpa only [Keyed.contains, Option.isSome_eq_false_iff, Option.isNone_iff_eq_none] using hcontains

theorem find?_of_not_free {name : String} (h : ¬a.Free (.method name)) :
    ∃ e, Keyed.find? name a.entries = some e := by
  have hcontains : Keyed.contains name a.entries = true := by simpa [Free, hasMethod] using h
  exact Option.isSome_iff_exists.mp hcontains

theorem apply_of_free (h : a.Free r.post) : ∃ b, r.apply a = .ok b ∧ a.Adds [r] b := by
  cases r with
  | method name c schema =>
    have hnone := find?_eq_none_of_free h
    refine ⟨{ a with entries := Keyed.insert name (c.entry schema) a.entries }, ?_, ?_, ?_, ?_, rfl, rfl, ?_⟩
    · simp only [Registration.apply, register, Keyed.contains, hnone]
      rfl
    · intro name'
      by_cases hname : name = name'
      · subst hname
        simp [Keyed.find?_insert, Registration.entryFor, hnone]
      · simp [Keyed.find?_insert, Registration.entryFor, hname]
    · exact Option.or_none.symm
    · exact Option.or_none.symm
    · exact fun hsorted => hsorted.insert name _
  | missing h' =>
    have hfree : a.missing = none := h
    refine ⟨{ a with missing := some h' }, ?_, fun _ => Option.or_none.symm, ?_, Option.or_none.symm,
      rfl, rfl, id⟩
    · simp only [Registration.apply, registerMissing, hfree]
    · simp [hfree, Registration.missing?]
  | close note =>
    have hfree : a.onClose = none := h
    refine ⟨{ a with onClose := some note }, ?_, fun _ => Option.or_none.symm, Option.or_none.symm, ?_,
      rfl, rfl, id⟩
    · simp only [Registration.apply, registerClose, hfree]
    · simp [hfree, Registration.close?]

/-- What comes for a taken post is refused, and would add nothing. -/
theorem apply_of_not_free (h : ¬a.Free r.post) : r.apply a = .error r.post.refusal ∧ a.Adds [r] a := by
  cases r with
  | method name c schema =>
    obtain ⟨e, he⟩ := find?_of_not_free h
    refine ⟨?_, fun name' => ?_, Option.or_none.symm, Option.or_none.symm, rfl, rfl, id⟩
    · simp only [Registration.apply, register, Keyed.contains, he]
      rfl
    · by_cases hname : name = name'
      · subst hname
        simp [he]
      · simp [Registration.entryFor, hname]
  | missing h' =>
    obtain ⟨h', htaken⟩ := Option.ne_none_iff_exists'.mp h
    refine ⟨?_, fun _ => Option.or_none.symm, ?_, Option.or_none.symm, rfl, rfl, id⟩
    · simp only [Registration.apply, registerMissing, htaken]
      rfl
    · simp [htaken]
  | close note =>
    obtain ⟨note', htaken⟩ := Option.ne_none_iff_exists'.mp h
    refine ⟨?_, fun _ => Option.or_none.symm, Option.or_none.symm, ?_, rfl, rfl, id⟩
    · simp only [Registration.apply, registerClose, htaken]
      rfl
    · simp [htaken]

theorem adds_enroll (a : Actor) (r : Registration) : a.Adds [r] (a.enroll r) := by
  by_cases h : a.Free r.post
  · obtain ⟨b, hb, hadds⟩ := apply_of_free h
    rwa [enroll, hb]
  · obtain ⟨herror, hadds⟩ := apply_of_not_free h
    rwa [enroll, herror]

theorem adds_enrollAll (a : Actor) (rs : List Registration) : a.Adds rs (a.enrollAll rs) := by
  induction rs generalizing a with
  | nil => exact adds_nil a
  | cons r rs ih => exact (a.adds_enroll r).append (ih (a.enroll r))

/-! ## Posts -/

theorem entryFor_eq_none_iff {name : String} : r.entryFor name = none ↔ r.post ≠ .method name := by
  cases r <;> simp [Registration.entryFor, Registration.post]

theorem missing?_eq_none_iff : r.missing? = none ↔ r.post ≠ .slot .missing := by
  cases r <;> simp [Registration.missing?, Registration.post]

theorem close?_eq_none_iff : r.close? = none ↔ r.post ≠ .slot .close := by
  cases r <;> simp [Registration.close?, Registration.post]

theorem post_of_entryFor {name : String} {e : Entry} (h : r.entryFor name = some e) :
    r.post = .method name := by
  by_cases hpost : r.post = .method name
  · exact hpost
  · rw [entryFor_eq_none_iff.mpr hpost] at h
    cases h

theorem entryFor_of_post {name : String} (h : r.post = .method name) :
    ∃ e, r.entryFor name = some e ∧ e.shape.isSome = r.isTyped := by
  cases r with
  | method name' c schema =>
    cases h
    exact ⟨c.entry schema, if_pos rfl, c.isSome_shape?⟩
  | missing h' => cases h
  | close note => cases h

/-- A post stays free as long as nothing is registered for it. -/
theorem Adds.free_iff (h : a.Adds rs b) (p : Post) : b.Free p ↔ a.Free p ∧ ∀ r ∈ rs, r.post ≠ p := by
  match p with
  | .method name =>
    simp only [Free, hasMethod, Keyed.contains, Option.isSome_eq_false_iff, Option.isNone_iff_eq_none,
      h.entry, Option.or_eq_none_iff, List.findSome?_eq_none_iff, entryFor_eq_none_iff]
  | .slot .missing =>
    simp only [Free, h.missing, Option.or_eq_none_iff, List.findSome?_eq_none_iff, missing?_eq_none_iff]
  | .slot .close =>
    simp only [Free, h.onClose, Option.or_eq_none_iff, List.findSome?_eq_none_iff, close?_eq_none_iff]

theorem free_fresh (validator : Option Validator) (verify : Bool) (p : Post) :
    (fresh validator verify).Free p := by
  match p with
  | .method name => rfl
  | .slot .missing => rfl
  | .slot .close => rfl

/-! ## Accepted registrations -/

theorem enrollAll_accepted (a : Actor) (rs : List Registration) :
    a.enrollAll (a.accepted rs) = a.enrollAll rs := by
  induction rs generalizing a with
  | nil => rfl
  | cons r rs ih =>
    cases hr : r.apply a with
    | ok b =>
      have henroll : a.enroll r = b := by rw [enroll, hr]
      simp only [accepted, hr, enrollAll, List.foldl_cons, henroll]
      exact ih b
    | error e =>
      have henroll : a.enroll r = a := by rw [enroll, hr]
      simp only [accepted, hr, enrollAll, List.foldl_cons, henroll]
      exact ih a

theorem accepted_eq_self (hfree : ∀ r ∈ rs, a.Free r.post) (hposts : (rs.map Registration.post).Nodup) :
    a.accepted rs = rs := by
  induction rs generalizing a with
  | nil => rfl
  | cons r rs ih =>
    obtain ⟨b, hb, hadds⟩ := apply_of_free (hfree r List.mem_cons_self)
    rw [List.map_cons, List.nodup_cons] at hposts
    obtain ⟨hr, hposts⟩ := hposts
    have hrest : ∀ q ∈ rs, b.Free q.post := by
      intro q hq
      refine (hadds.free_iff q.post).mpr ⟨hfree q (List.mem_cons_of_mem r hq), ?_⟩
      rw [List.forall_mem_singleton]
      intro heq
      exact hr (heq ▸ List.mem_map_of_mem hq)
    simp only [accepted, hb, ih hrest hposts]

theorem free_of_mem_accepted (h : r ∈ a.accepted rs) : a.Free r.post := by
  induction rs generalizing a with
  | nil => cases h
  | cons q rs ih =>
    by_cases hfree : a.Free q.post
    · obtain ⟨b, hb, hadds⟩ := apply_of_free hfree
      simp only [accepted, hb] at h
      rcases List.mem_cons.mp h with rfl | h
      · exact hfree
      · exact ((hadds.free_iff r.post).mp (ih h)).1
    · simp only [accepted, (apply_of_not_free hfree).1] at h
      exact ih h

theorem nodup_posts_accepted (a : Actor) (rs : List Registration) :
    ((a.accepted rs).map Registration.post).Nodup := by
  induction rs generalizing a with
  | nil => exact List.nodup_nil
  | cons r rs ih =>
    by_cases hfree : a.Free r.post
    · obtain ⟨b, hb, hadds⟩ := apply_of_free hfree
      simp only [accepted, hb, List.map_cons, List.nodup_cons]
      refine ⟨?_, ih b⟩
      rw [List.mem_map]
      rintro ⟨q, hq, hpost⟩
      have hne := ((hadds.free_iff q.post).mp (free_of_mem_accepted hq)).2 r List.mem_cons_self
      exact hne hpost.symm
    · simp only [accepted, (apply_of_not_free hfree).1]
      exact ih a

/-! ## Order -/

section Order

variable {β : Type} {f : Registration → Option β} {p : Post}

/-- What is brought for one post, where no two registrations are for one post, is what any of them
brings. -/
theorem findSome?_eq_some_iff_of_nodup (hf : ∀ r, r.post ≠ p → f r = none)
    (hposts : (rs.map Registration.post).Nodup) {x : β} :
    rs.findSome? f = some x ↔ ∃ r ∈ rs, f r = some x := by
  constructor
  · exact List.exists_of_findSome?_eq_some
  rintro ⟨r, hr, hx⟩
  have hpost : ∀ {q y}, f q = some y → q.post = p := by
    intro q y hq
    by_cases h : q.post = p
    · exact h
    · rw [hf q h] at hq
      cases hq
  induction rs with
  | nil => cases hr
  | cons q rs ih =>
    rw [List.map_cons, List.nodup_cons] at hposts
    obtain ⟨hq, hposts⟩ := hposts
    cases hfq : f q with
    | none =>
      rcases List.mem_cons.mp hr with rfl | hr
      · rw [hfq] at hx
        cases hx
      · rw [List.findSome?_cons, hfq]
        exact ih hposts hr
    | some y =>
      rcases List.mem_cons.mp hr with rfl | hr
      · rw [List.findSome?_cons, hx]
      · refine absurd ?_ hq
        rw [hpost hfq, ← hpost hx]
        exact List.mem_map_of_mem hr

theorem findSome?_of_perm (hf : ∀ r, r.post ≠ p → f r = none)
    (hposts : (rs.map Registration.post).Nodup) (hperm : ss.Perm rs) :
    ss.findSome? f = rs.findSome? f := by
  have hposts' : (ss.map Registration.post).Nodup := (hperm.map Registration.post).nodup_iff.mpr hposts
  ext x
  simp only [findSome?_eq_some_iff_of_nodup hf hposts, findSome?_eq_some_iff_of_nodup hf hposts',
    hperm.mem_iff]

end Order

/-- Registrations for different posts make the same actor in any order. -/
theorem enrollAll_of_perm (hsorted : Keyed.Sorted a.entries) (hposts : (rs.map Registration.post).Nodup)
    (hperm : ss.Perm rs) : a.enrollAll ss = a.enrollAll rs := by
  have h := a.adds_enrollAll rs
  have h' := a.adds_enrollAll ss
  have hentries : (a.enrollAll ss).entries = (a.enrollAll rs).entries := by
    refine (h'.sorted hsorted).ext (h.sorted hsorted) fun name => ?_
    rw [h.entry, h'.entry, findSome?_of_perm (fun r => entryFor_eq_none_iff.mpr) hposts hperm]
  have hmissing : (a.enrollAll ss).missing = (a.enrollAll rs).missing := by
    rw [h.missing, h'.missing, findSome?_of_perm (fun r => missing?_eq_none_iff.mpr) hposts hperm]
  have hclose : (a.enrollAll ss).onClose = (a.enrollAll rs).onClose := by
    rw [h.onClose, h'.onClose, findSome?_of_perm (fun r => close?_eq_none_iff.mpr) hposts hperm]
  have hvalidator := h'.validator.trans h.validator.symm
  have hverify := h'.verify.trans h.verify.symm
  calc a.enrollAll ss
      = ⟨(a.enrollAll ss).entries, (a.enrollAll ss).missing, (a.enrollAll ss).onClose,
          (a.enrollAll ss).validator, (a.enrollAll ss).verify⟩ := rfl
    _ = a.enrollAll rs := by rw [hentries, hmissing, hclose, hvalidator, hverify]

/-! ## What an actor holds after all -/

section Fresh

variable {validator : Option Validator} {verify : Bool}

theorem find?_fresh_eq_some_iff {name : String} {e : Entry} :
    Keyed.find? name ((fresh validator verify).enrollAll rs).entries = some e ↔
      ∃ r ∈ (fresh validator verify).accepted rs, r.entryFor name = some e := by
  rw [← enrollAll_accepted, (adds_enrollAll _ _).entry, fresh, Keyed.find?, Option.none_or,
    findSome?_eq_some_iff_of_nodup (fun r => entryFor_eq_none_iff.mpr) (nodup_posts_accepted _ rs)]

theorem mem_methods_fresh_iff {name : String} :
    name ∈ ((fresh validator verify).enrollAll rs).methods ↔
      ∃ r ∈ (fresh validator verify).accepted rs, r.post = .method name := by
  rw [methods, ← Keyed.find?_isSome_iff, Option.isSome_iff_exists]
  constructor
  · rintro ⟨e, he⟩
    obtain ⟨r, hr, hentry⟩ := find?_fresh_eq_some_iff.mp he
    exact ⟨r, hr, post_of_entryFor hentry⟩
  · rintro ⟨r, hr, hpost⟩
    obtain ⟨e, he, -⟩ := entryFor_of_post hpost
    exact ⟨e, find?_fresh_eq_some_iff.mpr ⟨r, hr, he⟩⟩

theorem isSome_shape?_fresh_iff {name : String} :
    (((fresh validator verify).enrollAll rs).shape? name).isSome ↔
      ∃ r ∈ (fresh validator verify).accepted rs, r.post = .method name ∧ r.isTyped := by
  simp only [shape?, Option.isSome_bind, Option.any_eq_true]
  constructor
  · rintro ⟨e, he, hshape⟩
    obtain ⟨r, hr, hentry⟩ := find?_fresh_eq_some_iff.mp he
    obtain ⟨e', he', htyped⟩ := entryFor_of_post (post_of_entryFor hentry)
    obtain rfl : e = e' := Option.some.inj (hentry.symm.trans he')
    exact ⟨r, hr, post_of_entryFor hentry, htyped ▸ hshape⟩
  · rintro ⟨r, hr, hpost, htyped⟩
    obtain ⟨e, he, hshape⟩ := entryFor_of_post hpost
    exact ⟨e, find?_fresh_eq_some_iff.mpr ⟨r, hr, he⟩, hshape ▸ htyped⟩

/-- An actor after any registrations, of which some may have been refused.

What is registered next is accepted if and only if nothing was registered for its post, and else it is
refused with the name of the post and changes nothing. For each post the actor holds what came first,
and it is the same actor that the accepted registrations alone make, in any order, so it answers every
call alike. Its methods are in order, and those that were accepted; a method has a shape if and only if
what was accepted for it is typed. -/
theorem registration_first_wins (validator : Option Validator) (verify : Bool) (rs : List Registration) :
    let a := (fresh validator verify).enrollAll rs
    let accepted := (fresh validator verify).accepted rs
    (∀ r : Registration,
      (a.Free r.post ↔ r.post ∉ rs.map Registration.post) ∧
      (a.Free r.post → ∃ b, r.apply a = .ok b ∧ a.enroll r = b) ∧
      (¬a.Free r.post → r.apply a = .error r.post.refusal ∧ a.enroll r = a)) ∧
    (∀ name, Keyed.find? name a.entries = rs.findSome? (Registration.entryFor name)) ∧
    a.missing = rs.findSome? Registration.missing? ∧
    a.onClose = rs.findSome? Registration.close? ∧
    (∀ ss : List Registration, ss.Perm accepted →
      (fresh validator verify).accepted ss = ss ∧ (fresh validator verify).enrollAll ss = a ∧
      ∀ c : Call, ((fresh validator verify).enrollAll ss).feed c = a.feed c) ∧
    a.methods.Pairwise (· < ·) ∧
    (∀ name, name ∈ a.methods ↔ ∃ r ∈ accepted, r.post = .method name) ∧
    ∀ name, (a.shape? name).isSome ↔ ∃ r ∈ accepted, r.post = .method name ∧ r.isTyped := by
  intro a accepted
  have hadds : (fresh validator verify).Adds rs a := adds_enrollAll _ rs
  have hsorted : Keyed.Sorted (fresh validator verify).entries := List.Pairwise.nil
  refine ⟨fun r => ⟨?_, fun h => ?_, fun h => ?_⟩, hadds.entry, hadds.missing, hadds.onClose,
    fun ss hperm => ?_, List.pairwise_map.mpr (hadds.sorted hsorted), fun _ => mem_methods_fresh_iff,
    fun _ => isSome_shape?_fresh_iff⟩
  · simp only [hadds.free_iff, free_fresh, true_and, List.mem_map, not_exists, not_and, ne_eq]
  · obtain ⟨b, hb, -⟩ := apply_of_free h
    exact ⟨b, hb, by rw [enroll, hb]⟩
  · have herror := (apply_of_not_free h).1
    exact ⟨herror, by rw [enroll, herror]⟩
  · have hposts := nodup_posts_accepted (fresh validator verify) rs
    have hposts' : (ss.map Registration.post).Nodup := (hperm.map Registration.post).nodup_iff.mpr hposts
    have hsame : (fresh validator verify).enrollAll ss = a := by
      rw [enrollAll_of_perm hsorted hposts hperm, enrollAll_accepted]
    exact ⟨accepted_eq_self (fun r _ => free_fresh validator verify r.post) hposts', hsame,
      fun c => by rw [hsame]⟩

/-- Five registrations, of which the third and the last come too late. -/
def fiveRegistrations : List Registration :=
  [.method "three" (.typed Sample.three) none, .method "echo" (.handler Sample.echo) none,
    .method "three" (.handler Sample.kind) (some .null), .missing Sample.echo, .missing Sample.kind]

/-- Those that came in time, the last of them first. -/
def threeInTime : List Registration :=
  [.missing Sample.echo, .method "echo" (.handler Sample.echo) none,
    .method "three" (.typed Sample.three) none]

theorem registration_first_wins_fiveRegistrations :
    threeInTime.Perm ((fresh none true).accepted fiveRegistrations) ∧
    (fresh none true).accepted threeInTime = threeInTime ∧
    (fresh none true).enrollAll threeInTime = (fresh none true).enrollAll fiveRegistrations ∧
    ¬((fresh none true).enrollAll fiveRegistrations).Free (.method "three") ∧
    (Registration.method "three" (.handler Sample.kind) none).apply
      ((fresh none true).enrollAll fiveRegistrations) = .error (.duplicate "three") := by
  have haccepted : (fresh none true).accepted fiveRegistrations = threeInTime.reverse := rfl
  have hperm : threeInTime.Perm ((fresh none true).accepted fiveRegistrations) :=
    haccepted ▸ (List.reverse_perm threeInTime).symm
  obtain ⟨hnext, -, -, -, horder, -⟩ := registration_first_wins none true fiveRegistrations
  obtain ⟨hall, hsame, -⟩ := horder threeInTime hperm
  obtain ⟨hfree, -, hrefused⟩ := hnext (.method "three" (.handler Sample.kind) none)
  have htaken : ¬((fresh none true).enrollAll fiveRegistrations).Free (.method "three") :=
    fun h => hfree.mp h List.mem_cons_self
  exact ⟨hperm, hall, hsame, htaken, (hrefused htaken).1⟩

end Fresh

end Actor

end Switchboard
