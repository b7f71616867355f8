import MatrixFree.Proofs.Session.WarmStart

/-!
# Planes

A plane has a position in y, which is not among its values.  Packing drops it, and unpacking starts
from a field that knows its mesh only, so whatever a session unpacks is at the origin
(`Grid.Field.AtOrigin`): the fields that the operator in use is applied to in a run, and the field
that is answered.  Planes with the same values are therefore inverted alike, wherever they are, and of
an operator whose coefficients depend on y only those at the origin count
(`Session.planes_at_origin`).
-/

namespace MatrixFree

open Grid Engine Options Krylov

variable {k : Kind} {σ : Type}

/-- A field with values on a mesh, at the first position in y. -/
structure Grid.Field.AtOrigin (mesh : Mesh) (x : Field k) : Prop where
  home : x.mesh = mesh
  allocated : x.isAllocated = true
  first : x.yIndex = 0

namespace Grid.Field

theorem atOrigin_ofVector (mesh : Mesh) (x : Vector Float (k.count mesh)) :
    (ofVector mesh x : Field k).AtOrigin mesh :=
  ⟨rfl, rfl, rfl⟩

/-- Packing drops where a plane is. -/
theorem toVector_atY (f : Field k) (y n : Nat) : (f.atY y).toVector n = f.toVector n := by
  obtain ⟨m, i, values⟩ := f
  cases values <;> rfl

/-- What is unpacked on a new field is at the origin. -/
theorem atOrigin_of_withVector {mesh : Mesh} {x : Vector Float (k.count mesh)} {f : Field k}
    (unpacked : (new mesh : Field k).withVector x = .ok f) : f.AtOrigin mesh := by
  rw [withVector_new] at unpacked
  split at unpacked
  · cases unpacked
  · cases unpacked
    exact atOrigin_ofVector mesh x

/-- Packing and unpacking keep the values and move a plane to the origin. -/
theorem withVector_of_toVector {mesh : Mesh} {f : Field k} (home : f.mesh = mesh)
    (room : k.reserveIndices mesh = .ok ()) {x : Vector Float (k.count mesh)}
    (packed : f.toVector (k.count mesh) = .ok x) :
    (new mesh : Field k).withVector x = .ok (f.atY 0) := by
  obtain ⟨m, y, values⟩ := f
  obtain rfl : m = mesh := home
  cases values with
  | none => cases packed
  | some xs =>
      have size : (⟨m, y, some xs⟩ : Field k).count = k.count m := rfl
      unfold toVector at packed
      obtain rfl : xs = x := Except.ok.inj ((dif_pos size).symm.trans packed)
      rw [withVector_new, room]
      rfl

end Grid.Field

/-! ## Fields that are handed to the operator -/

namespace Adapter

theorem apply_fst (a : Adapter k σ) (x : Field k) :
    (a.apply x).1 = (a.function x a.memory).1 := rfl

/-- The adapter after its function was applied to some fields, one after the other. -/
def applyAll (a : Adapter k σ) (fields : List (Field k)) : Adapter k σ :=
  fields.foldl (fun a x => (a.apply x).2) a

theorem applyAll_append (a : Adapter k σ) (fields more : List (Field k)) :
    a.applyAll (fields ++ more) = (a.applyAll fields).applyAll more :=
  List.foldl_append

/-- From `a` to `b` the function was applied to fields at the origin, and to no others. -/
def AppliedAtOrigin (mesh : Mesh) (a b : Adapter k σ) : Prop :=
  ∃ fields : List (Field k), (∀ x ∈ fields, x.AtOrigin mesh) ∧ b = a.applyAll fields

theorem AppliedAtOrigin.apply {mesh : Mesh} {a b : Adapter k σ} (h : a.AppliedAtOrigin mesh b)
    {x : Field k} (here : x.AtOrigin mesh) : a.AppliedAtOrigin mesh (b.apply x).2 := by
  obtain ⟨fields, origin, rfl⟩ := h
  refine ⟨fields ++ [x], ?_, ?_⟩
  · intro y mem
    rcases List.mem_append.mp mem with earlier | last
    · exact origin y earlier
    · rw [List.mem_singleton.mp last]
      exact here
  · rw [applyAll_append]
    rfl

/-- From `a` to `b` the function was applied to these fields. A memory that lists the applications
lists them. -/
structure Hands (a b : Adapter k σ) (fields : List (Field k)) : Prop where
  applied : b = a.applyAll fields
  listed : ∀ told, a.function.Lists told → told b.memory = told a.memory ++ fields

theorem hands_applyAll (a : Adapter k σ) (fields : List (Field k)) :
    a.Hands (a.applyAll fields) fields := by
  refine ⟨rfl, fun told lists => ?_⟩
  induction fields generalizing a with
  | nil => exact (List.append_nil _).symm
  | cons x fields ih =>
      have first : told (a.apply x).2.memory = told a.memory ++ [x] := lists x a.memory
      show told ((a.apply x).2.applyAll fields).memory = _
      rw [ih (a.apply x).2 lists, first, List.append_assoc, List.singleton_append]

end Adapter

namespace Session

section Inversion

variable {t : Session k σ} {r : Ready k σ} {scope : String} {settings : Settings}

/-- An inversion applies the operator in use to fields that its run unpacks. -/
theorem invert_atOrigin (ready : t.stage = .ready r)
    (continued : (Ready.initial t.mesh scope settings).Continues r) (rhs : Field k) :
    t.workspace.adapter.AppliedAtOrigin t.mesh (t.invert rhs).session.workspace.adapter :=
  invert_keeps ready continued
    (fun x _ applied => applied.apply (Field.atOrigin_ofVector t.mesh x)) ⟨[], nofun, rfl⟩ rhs

/-- The field that an inversion answers is at the origin. -/
theorem atOrigin_of_invert_ok (ready : t.stage = .ready r)
    (continued : (Ready.initial t.mesh scope settings).Continues r) {rhs x : Field k}
    (ok : (t.invert rhs).answer = .ok x) : x.AtOrigin t.mesh := by
  obtain ⟨home, allocated⟩ := takes_of_invert_ok ready ok
  obtain ⟨b, packed⟩ := Field.exists_toVector home allocated
  obtain ⟨previous, entries⟩ := continued.previous
  have answer := (invert_run ready continued home packed entries).answer
  rw [ok] at answer
  unfold answerOf at answer
  split at answer
  · cases answer
  · split at answer
    · exact Field.atOrigin_of_withVector answer.symm
    · cases answer

/-- A verification applies the operator once more, to the field that its inversion answers. -/
theorem verify_adapter (ready : t.stage = .ready r) (rhs : Field k) (tolerance : Float) :
    (t.verify rhs tolerance).session.workspace.adapter =
      (t.invert rhs).session.workspace.adapter.applyAll (t.invert rhs).answer.toOption.toList := by
  cases answer : (t.invert rhs).answer with
  | error e =>
      rw [verify_of_error answer tolerance]
      rfl
  | ok x => exact (verify_of_ok ready answer tolerance).1

/-! ## Where a plane is does not matter -/

theorem invert_atY (t : Session k σ) (rhs : Field k) (y : Nat) :
    t.invert (rhs.atY y) = t.invert rhs := by
  have ready : t.readyFor (rhs.atY y) = t.readyFor rhs := rfl
  unfold invert solve
  rw [ready]
  simp only [Field.toVector_atY]

theorem verify_atY (t : Session k σ) (rhs : Field k) (y : Nat) (tolerance : Float) :
    t.verify (rhs.atY y) tolerance = t.verify rhs tolerance := by
  unfold verify
  rw [invert_atY]
  rfl

end Inversion

end Session

/-! ## Operators that agree at the origin -/

namespace FieldOperator

/-- Two operator functions that do the same with fields at the origin of a mesh. -/
def AgreeAtOrigin (mesh : Mesh) (f g : FieldOperator k σ) : Prop :=
  ∀ (x : Field k) memory, x.AtOrigin mesh → g x memory = f x memory

variable {f g : FieldOperator k σ} {mesh : Mesh}

/-- The multiplies of a session do not tell them apart. -/
theorem AgreeAtOrigin.multiply_mirrors (agree : AgreeAtOrigin mesh f g) :
    (g.multiply mesh).Mirrors Eq (f.multiply mesh) := by
  rintro (x : Vector Float (k.count mesh)) (y : Vector Float (k.count mesh)) memory _ rfl
  have same : g.multiply mesh x.toArray y memory = f.multiply mesh x.toArray y memory := by
    cases listed : k.reserveIndices mesh with
    | error fault => rw [multiply_of_full listed, multiply_of_full listed]
    | ok _ =>
        rw [multiply_of_room listed, multiply_of_room listed,
          agree _ memory (Field.atOrigin_ofVector mesh x)]
  rw [same]
  exact ⟨rfl, rfl⟩

end FieldOperator

namespace Session

/-- What a verification on a mesh answers to the image of its solution. -/
def answerTo (mesh : Mesh) (rhs : Field k) (tolerance : Float) :
    Except Fault (Field k) → Except (Failure SessionError) Bool
  | .error fault => .error (.fault fault)
  | .ok y =>
    if y.mesh ≠ mesh then .error (.error .foreignResult)
    else if !y.isAllocated then .error (.error .unallocated)
    else .ok (mesh.comm.max (maxAbs (List.zipWith (· - ·) y.toList rhs.toList)) < tolerance)

theorem compare_fst (s : Session k σ) (rhs x y : Field k) (tolerance : Float) :
    (s.compare rhs x y tolerance).1 =
      decide (s.mesh.comm.max (maxAbs (List.zipWith (· - ·) y.toList rhs.toList)) < tolerance) := by
  unfold compare
  dsimp only
  split
  · next below => exact (decide_eq_true below).symm
  · next above => exact (decide_eq_false above).symm

theorem verify_answer {s : Session k σ} {rhs x : Field k} (ok : (s.invert rhs).answer = .ok x)
    (tolerance : Float) :
    (s.verify rhs tolerance).answer =
      answerTo s.mesh rhs tolerance ((s.invert rhs).session.workspace.adapter.apply x).1 := by
  have home := s.invert_mesh rhs
  unfold verify
  rcases hinv : s.invert rhs with ⟨answer, s', log⟩
  rw [hinv] at ok home
  obtain rfl : answer = .ok x := ok
  dsimp only [apply, Workspace.apply] at home ⊢
  cases (s'.workspace.adapter.apply x).1 with
  | error fault => rfl
  | ok y =>
      unfold answerTo
      dsimp only
      rw [← home]
      split
      · rfl
      · split
        · rfl
        · exact congrArg Except.ok (compare_fst ..)

section Agreement

variable {t : Session k σ} {mesh : Mesh} {settings : Settings} {start : Vector Float (k.count mesh)}
  {g : FieldOperator k σ}

/-- An operator that agrees with the one in use at the origin could be in its place. -/
theorem StartsFrom.invert_agree (h : t.StartsFrom settings start)
    (agree : t.workspace.adapter.function.AgreeAtOrigin mesh g) (rhs : Field k) :
    let u := t.withFunction g t.workspace.adapter.memory
    (u.invert rhs).answer = (t.invert rhs).answer ∧
      (u.invert rhs).session.workspace.adapter.memory =
        (t.invert rhs).session.workspace.adapter.memory := by
  intro u
  have h' : u.StartsFrom settings start := h.of_eq rfl rfl
  obtain ⟨r, -, ready, -⟩ := h.ready
  have ready' : u.stage = .ready r := ready
  by_cases here : rhs.mesh = t.mesh
  · by_cases allocated : rhs.isAllocated = true
    · obtain ⟨b, packed⟩ := Field.exists_toVector (here.trans h.home) allocated
      have out := h.reports (here.trans h.home) packed
      have out' := h'.reports (here.trans h.home) packed
      have inUse : (t.workspace.measure .packing).adapter =
          ⟨t.workspace.adapter.function, t.workspace.adapter.memory⟩ := rfl
      have inUse' : (u.workspace.measure .packing).adapter = ⟨g, t.workspace.adapter.memory⟩ := rfl
      have run := runOver_mirrors inUse settings b start
      have run' := runOver_mirrors inUse' settings b start
      have same := runSolver_mirrors agree.multiply_mirrors settings b start
        (rfl : t.workspace.adapter.memory = _)
      rw [out.answer, out'.answer, out.adapter, out'.adapter, run.memory, run'.memory]
      unfold answerOf
      rw [run.result, run'.result, run.solution, run'.solution, same.result, same.solution]
      exact ⟨rfl, same.memory⟩
    · have empty := eq_false_of_ne_true allocated
      rw [invert_unallocated ready here empty, invert_unallocated ready' here empty]
      exact ⟨rfl, rfl⟩
  · rw [invert_foreign ready here, invert_foreign ready' here]
    exact ⟨rfl, rfl⟩

theorem StartsFrom.verify_agree (h : t.StartsFrom settings start)
    (agree : t.workspace.adapter.function.AgreeAtOrigin mesh g) (rhs : Field k)
    (tolerance : Float) :
    ((t.withFunction g t.workspace.adapter.memory).verify rhs tolerance).answer =
      (t.verify rhs tolerance).answer := by
  obtain ⟨answer, memory⟩ := h.invert_agree agree rhs
  obtain ⟨home, r, scope, ready, continued, -⟩ := id h
  obtain rfl := home
  generalize made : t.withFunction g t.workspace.adapter.memory = u at answer memory ⊢
  have mesh : u.mesh = t.mesh := by rw [← made]; rfl
  have ready' : u.stage = .ready r := by rw [← made]; exact ready
  have inUse : (t.invert rhs).session.workspace.adapter.function = t.workspace.adapter.function :=
    invert_function ready continued rhs
  have inUse' : (u.invert rhs).session.workspace.adapter.function = g := by
    rw [invert_function ready' (mesh ▸ continued) rhs, ← made]
    rfl
  cases found : (t.invert rhs).answer with
  | error e =>
      rw [verify_of_error found, verify_of_error (answer.trans found)]
  | ok x =>
      have origin : x.AtOrigin t.mesh := atOrigin_of_invert_ok ready continued found
      rw [verify_answer found, verify_answer (answer.trans found), mesh]
      rw [Adapter.apply_fst, Adapter.apply_fst, inUse, inUse', memory, agree x _ origin]

end Agreement

/-- **Planes are inverted at the origin.**  In a session that is ready after a setup and any calls,
an inversion and a verification apply the operator in use to fields at the origin, and the field
that an inversion answers is there too, wherever the right-hand side is.  So it is in place exactly if
the right-hand side is at the origin.  Neither call depends on the position of the right-hand side,
nor on what the operator does elsewhere.  Packing and unpacking keep all values. -/
theorem planes_at_origin {s : Session k σ} {n : Nat} (setUp : s.setup.answer = .ok n)
    (calls : List (Call k σ)) {r : Ready k σ}
    (ready : (s.setup.session.afterAll calls).stage = .ready r) (rhs : Field k)
    (tolerance : Float) :
    let t := s.setup.session.afterAll calls
    let a := t.workspace.adapter
    let out := t.invert rhs
    let checked := t.verify rhs tolerance
    (∃ handed : List (Field k), (∀ x ∈ handed, x.AtOrigin s.mesh) ∧
        a.Hands out.session.workspace.adapter handed ∧
        a.Hands checked.session.workspace.adapter (handed ++ out.answer.toOption.toList)) ∧
      (∀ x, out.answer = .ok x →
        x.AtOrigin s.mesh ∧ (x.yIndex = rhs.yIndex ↔ rhs.yIndex = 0)) ∧
      (∀ y, t.invert (rhs.atY y) = out ∧ t.verify (rhs.atY y) tolerance = checked) ∧
      (∀ g, a.function.AgreeAtOrigin s.mesh g →
        let u := t.withFunction g a.memory
        (u.invert rhs).answer = out.answer ∧ (u.verify rhs tolerance).answer = checked.answer) ∧
      ∀ b, rhs.mesh = s.mesh → rhs.toVector (k.count s.mesh) = .ok b →
        k.reserveIndices s.mesh = .ok () →
        (Field.new s.mesh : Field k).withVector b = .ok (rhs.atY 0) := by
  intro t a out checked
  obtain ⟨settings, -, continued⟩ := ready_afterAll setUp calls ready
  have home : t.mesh = s.mesh := by
    show (s.setup.session.afterAll calls).mesh = s.mesh
    rw [afterAll_mesh, setup_mesh]
  obtain ⟨start, starts⟩ := exists_startsFrom home ready continued
  rw [← home] at continued
  obtain ⟨handed, origin, inverted⟩ := invert_atOrigin ready continued rhs
  have once : checked.session.workspace.adapter =
      a.applyAll (handed ++ out.answer.toOption.toList) := by
    rw [Adapter.applyAll_append, ← inverted]
    exact verify_adapter ready rhs tolerance
  refine ⟨⟨handed, home ▸ origin, ?_, ?_⟩, ?_, ?_, ?_, ?_⟩
  · rw [inverted]
    exact a.hands_applyAll handed
  · rw [once]
    exact a.hands_applyAll _
  · intro x ok
    have here : x.AtOrigin t.mesh := atOrigin_of_invert_ok ready continued ok
    refine ⟨home ▸ here, ?_⟩
    rw [here.first]
    exact eq_comm
  · exact fun y => ⟨t.invert_atY rhs y, t.verify_atY rhs y tolerance⟩
  · intro g agree
    exact ⟨(starts.invert_agree agree rhs).1, starts.verify_agree agree rhs tolerance⟩
  · intro b here packed room
    exact Field.withVector_of_toVector here room packed

/-- Doubling everywhere but at the origin.  It is inverted as the identity, on a plane elsewhere. -/
theorem planes_at_origin_doubling :
    let mesh := Mesh.serial 0 2 3 1
    let f : FieldOperator .plane (List (Field .plane)) := fun x handed =>
      (.ok (if x.yIndex = 0 then x else { x with values := x.values.map (·.map (2.0 * ·)) }),
        handed ++ [x])
    let g : FieldOperator .plane (List (Field .plane)) := fun x handed => (.ok x, handed ++ [x])
    let s : Session .plane (List (Field .plane)) := ofFunction mesh f [] .empty
    let rhs : Field .plane := (Field.ofVector mesh #v[2.0, 4.0]).atY 2
    let t := s.setup.session
    (s.setup.answer = .ok 2 ∧ (∃ r, t.stage = .ready r) ∧ f.AgreeAtOrigin mesh g) ∧
      (∃ handed : List (Field .plane), (t.invert rhs).session.workspace.adapter.memory = handed ∧
        handed.length = 3 ∧ ∀ x ∈ handed, x.AtOrigin mesh) ∧
      (∃ x, (t.invert rhs).answer = .ok x ∧ x.yIndex = 0) ∧
      ((t.withFunction g []).invert rhs).answer = (t.invert rhs).answer := by
  intro mesh f g s rhs t
  have run : s.setup.answer.toOption.any (· == 2) = true := by decide +kernel
  obtain ⟨n, setUp, two⟩ := exists_ok_of_any run
  obtain rfl : n = 2 := beq_iff_eq.1 two
  obtain ⟨-, r, log, -, -, made⟩ := setup_ok setUp
  have ready : t.stage = .ready r := by
    show s.setup.session.stage = .ready r
    rw [made]
    rfl
  have inUse : t.workspace.adapter = ⟨f, []⟩ := by
    show s.setup.session.workspace.adapter = ⟨f, []⟩
    rw [made]
    rfl
  have agree : f.AgreeAtOrigin mesh g := by
    intro x handed origin
    show (_, _) = (Except.ok (if x.yIndex = 0 then x else _), _)
    rw [if_pos origin.first]
  have lists : t.workspace.adapter.function.Lists id := by
    rw [inUse]
    exact fun _ _ => rfl
  have found : (t.invert rhs).answer.toOption.any (fun _ => true) = true := by decide +kernel
  obtain ⟨x, ok, -⟩ := exists_ok_of_any found
  have three : (t.invert rhs).session.workspace.adapter.memory.length = 3 := by decide +kernel
  obtain ⟨⟨handed, origin, hands, -⟩, answered, -, others, -⟩ :=
    planes_at_origin setUp [] ready rhs 1e-5
  have told : (t.invert rhs).session.workspace.adapter.memory =
      t.workspace.adapter.memory ++ handed := hands.listed id lists
  have same : ((t.withFunction g t.workspace.adapter.memory).invert rhs).answer =
      (t.invert rhs).answer := by
    refine (others g ?_).1
    show t.workspace.adapter.function.AgreeAtOrigin mesh g
    rw [inUse]
    exact agree
  rw [inUse, List.nil_append] at told
  rw [inUse] at same
  rw [told] at three
  exact ⟨⟨setUp, ⟨r, ready⟩, agree⟩, ⟨handed, told, three, origin⟩,
    ⟨x, ok, (answered x ok).1.first⟩, same⟩

/-- A plane at two is inverted at zero, by an operator that is asked at zero only. -/
theorem plane_not_kept :
    let mesh := Mesh.serial 0 2 3 1
    let f : FieldOperator .plane (List Nat) := fun x handed => (.ok x, handed ++ [x.yIndex])
    let s : Session .plane (List Nat) := ofFunction mesh f [] .empty
    let rhs : Field .plane := (Field.ofVector mesh #v[2.0, 4.0]).atY 2
    let out := s.setup.session.invert rhs
    let checked := s.setup.session.verify rhs 1e-5
    rhs.yIndex = 2 ∧ (out.answer.map fun x => (x.yIndex, x.toList)) = .ok (0, [2.0, 4.0]) ∧
      out.session.workspace.adapter.memory = [0, 0, 0] ∧
      checked.session.workspace.adapter.memory = [0, 0, 0, 0] ∧
      (((rhs.toVector 2).toOption.bind fun b =>
        ((Field.new mesh : Field .plane).withVector b).toOption).map Field.yIndex) = some 0 := by
  decide +kernel

end Session

end MatrixFree
