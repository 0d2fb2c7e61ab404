import PlaneSketch.Proofs.Solve.Guides

namespace PlaneSketch

namespace Store

variable {α : Type}

-- Two runs over related lists stay related as long as their steps do, on the way of the one from
-- its first store to its end.
theorem forall_foldl_of_grows {β β' : Type} {R : Store α → Store α → Prop} {Q : β → β' → Prop}
    {step : Store α → β → Store α} {step' : Store α → β' → Store α} {first final : Store α}
    (hgrows : ∀ s b, Grows s (step s b))
    (hstep : ∀ s s' b b', first.Grows s → R s s' → Q b b' → (step s b).Grows final →
      R (step s b) (step' s' b'))
    {bs : List β} {bs' : List β'} (hbs : List.Forall₂ Q bs bs') {s s' : Store α}
    (hfirst : first.Grows s) (h : R s s') (hfinal : (bs.foldl step s).Grows final) :
    R (bs.foldl step s) (bs'.foldl step' s') := by
  induction hbs generalizing s s' with
  | nil => exact h
  | @cons b b' rest rest' hb _ ih =>
      have hrest := (grows_foldl hgrows rest (step s b)).trans hfinal
      exact ih (hfirst.trans (hgrows s b)) (hstep s s' b b' hfirst h hb hrest) hfinal

end Store

-- One line repeats another up to the bound.
def Line.repeats {α : Type} [Scalar α] (bound : α) (l k : Line α) : Bool :=
  l.a.near bound k.a && l.b.near bound k.b

namespace Solve

variable {ruler : Ruler Float} {s : Sketch} {options : Options Float} {length : Float}
  {facts : List (Fact Float)}

-- Among what was found, lines along an axis can be described with another length: at the positions
-- of aligned points both lengths count, lines of one point that repeat each other with the one do
-- so with the other, and a point that was found where two lines cross is where they cross with
-- either.
structure Interchangeable (ruler : Ruler Float) (s : Sketch) (options : Options Float)
    (length : Float) (facts : List (Fact Float)) : Prop where
  reaches : ∀ axis p q a, .fixed p a ∈ facts → Fact.aligned axis p q ∈ facts →
    Axis.Reaches axis a options.axisLength ∧ Axis.Reaches axis a length
  repeats : ∀ q l k, Guides ruler s options facts q l → Guides ruler s options facts q k →
    (l length).repeats options.epsilon (k length) =
      (l options.axisLength).repeats options.epsilon (k options.axisLength)
  crosses : ∀ q l k a, Guides ruler s options facts q l → Guides ruler s options facts q k →
    .fixed q a ∈ facts → (l options.axisLength).meetLine (k options.axisLength) = some a →
    (l length).meetLine (k length) = some a

theorem Guides.alike {q : Handle} {line : Float → Line Float}
    (h : Guides ruler s options facts q line)
    (hsame : Interchangeable ruler s options length facts) :
    (line options.axisLength).Alike (line length) := by
  rcases h.cases with ⟨axis, p, a, hfixed, haligned, rfl⟩ | ⟨-, hconstant⟩
  · obtain ⟨hreaches, hreaches'⟩ := hsame.reaches axis p q a hfixed haligned
    exact Axis.alike_helper hreaches hreaches'
  · rw [hconstant options.axisLength length]
    exact .refl _

-- The same fact in two runs that describe lines along an axis with different lengths.
inductive Counterpart (ruler : Ruler Float) (s : Sketch) (options : Options Float)
    (length : Float) (facts : List (Fact Float)) : Fact Float → Fact Float → Prop
  | guide {q : Handle} {line : Float → Line Float} (h : Guides ruler s options facts q line) :
      Counterpart ruler s options length facts
        (.onLine q (line options.axisLength).a (line options.axisLength).b)
        (.onLine q (line length).a (line length).b)
  | same {fact : Fact Float} (h : fact.kind ≠ .onLine) :
      Counterpart ruler s options length facts fact fact

namespace Counterpart

variable {fact fact' known known' : Fact Float}

theorem kind_eq (h : Counterpart ruler s options length facts fact fact') :
    fact'.kind = fact.kind := by
  cases h <;> rfl

theorem sameAs_eq (hsame : Interchangeable ruler s options length facts)
    (hknown : Counterpart ruler s options length facts known known')
    (hfact : Counterpart ruler s options length facts fact fact') :
    known'.sameAs options.epsilon fact' = known.sameAs options.epsilon fact := by
  cases hknown with
  | @guide p l hl =>
      cases hfact with
      | @guide q k hk =>
          by_cases hpq : p = q
          · subst hpq
            have hrepeats := hsame.repeats p l k hl hk
            simp only [Line.repeats] at hrepeats
            simp only [Fact.sameAs, beq_self_eq_true, Bool.true_and, hrepeats]
          · have hother : (p == q) = false := by simpa using hpq
            simp only [Fact.sameAs, hother, Bool.false_and]
      | same h => cases fact <;> first | rfl | exact absurd rfl h
  | same h =>
      cases hfact with
      | guide _ => cases known <;> first | rfl | exact absurd rfl h
      | same _ => rfl

end Counterpart

-- Two stores that hold the same facts in the same order, each with its own length.
structure InStep (ruler : Ruler Float) (s : Sketch) (options : Options Float) (length : Float)
    (facts : List (Fact Float)) (store store' : Store Float) : Prop where
  epsilon : store.epsilon = options.epsilon
  epsilon' : store'.epsilon = options.epsilon
  facts : List.Forall₂ (Counterpart ruler s options length facts) store.facts store'.facts

namespace InStep

variable {store store' : Store Float}

theorem size_eq (h : InStep ruler s options length facts store store') : store'.size = store.size :=
  h.facts.length_eq.symm

-- All facts but the lines are the same.
theorem filter_eq (h : InStep ruler s options length facts store store') :
    store.facts.filter (fun fact => fact.kind != .onLine) =
      store'.facts.filter (fun fact => fact.kind != .onLine) := by
  have hall {known known' : List (Fact Float)}
      (h : List.Forall₂ (Counterpart ruler s options length facts) known known') :
      known.filter (fun fact => fact.kind != .onLine) =
        known'.filter (fun fact => fact.kind != .onLine) := by
    induction h with
    | nil => rfl
    | @cons fact fact' rest rest' hfact _ ih =>
        cases hfact with
        | guide _ => exact ih
        | same hkind =>
            simp only [List.filter_cons, bne_iff_ne.mpr hkind, if_true, ih]
  exact hall h.facts

theorem agreeOn (h : InStep ruler s options length facts store store') (p : Handle) :
    store.AgreeOn store' p := by
  refine Store.agreeOn_of_filter_eq _ h.filter_eq ?_ ?_ <;>
  · intro fact _ _ hcurve
    cases fact <;> first | rfl | cases hcurve

theorem circlesOf_eq (h : InStep ruler s options length facts store store') (p : Handle) :
    store'.circlesOf p = store.circlesOf p := by
  refine (Store.filterMap_eq_of_filter_eq _ h.filter_eq ?_ ?_).symm <;>
  · intro fact _ hasked
    cases fact <;> first | rfl | cases hasked

theorem positions_eq (h : InStep ruler s options length facts store store') :
    store'.positions = store.positions := by
  refine (Store.filterMap_eq_of_filter_eq _ h.filter_eq ?_ ?_).symm <;>
  · intro fact _ hasked
    cases fact <;> first | rfl | cases hasked

theorem ofKind (h : InStep ruler s options length facts store store') (kind : Fact.Kind) :
    List.Forall₂ (Counterpart ruler s options length facts) (store.ofKind kind)
      (store'.ofKind kind) :=
  List.rel_filter (fun _ _ hfact => by simp only [hfact.kind_eq]) h.facts

-- The lines of a point in the one store are those in the other.
theorem linesOf (h : InStep ruler s options length facts store store') (p : Handle) :
    List.Forall₂
      (fun l l' => ∃ line, Guides ruler s options facts p line ∧ l = line options.axisLength ∧
        l' = line length)
      (store.linesOf p) (store'.linesOf p) := by
  refine List.rel_filterMap (fun fact fact' hfact => ?_) h.facts
  cases hfact with
  | @guide q line hline =>
      by_cases hq : q = p
      · subst hq
        simp only [if_true]
        exact .some ⟨line, hline, rfl, rfl⟩
      · simp only [hq, if_false]
        exact .none
  | same hkind => cases fact <;> first | exact .none | exact absurd rfl hkind

theorem knows_eq (hsame : Interchangeable ruler s options length facts)
    (h : InStep ruler s options length facts store store') {fact fact' : Fact Float}
    (hfact : Counterpart ruler s options length facts fact fact') :
    store'.knows fact' = store.knows fact := by
  have hall {known known' : List (Fact Float)}
      (h : List.Forall₂ (Counterpart ruler s options length facts) known known') :
      known'.any (·.sameAs options.epsilon fact') = known.any (·.sameAs options.epsilon fact) := by
    induction h with
    | nil => rfl
    | cons hknown _ ih => rw [List.any_cons, List.any_cons, hknown.sameAs_eq hsame hfact, ih]
  rw [Store.knows, Store.knows, h.epsilon, h.epsilon']
  exact hall h.facts

end InStep

-- What is concluded in two runs: the same, or where the same lines of a point cross.
inductive Twin (ruler : Ruler Float) (s : Sketch) (options : Options Float) (length : Float)
    (facts : List (Fact Float)) : Fact Float → Fact Float → Prop
  | counterpart {fact fact' : Fact Float}
      (h : Counterpart ruler s options length facts fact fact') :
      Twin ruler s options length facts fact fact'
  | crossing {q : Handle} {l k : Float → Line Float} {a b : Point Float}
      (hl : Guides ruler s options facts q l) (hk : Guides ruler s options facts q k)
      (ha : (l options.axisLength).meetLine (k options.axisLength) = some a)
      (hb : (l length).meetLine (k length) = some b) :
      Twin ruler s options length facts (.fixed q a) (.fixed q b)

section Run

variable {final store store' : Store Float}

theorem inStep_add (hsame : Interchangeable ruler s options length final.facts)
    (hstep : InStep ruler s options length final.facts store store') {fact fact' : Fact Float}
    (hfact : Twin ruler s options length final.facts fact fact')
    (hfinal : (store.add fact).Grows final) :
    InStep ruler s options length final.facts (store.add fact) (store'.add fact') := by
  have happend {fact fact' : Fact Float} (hnew : store.knows fact = false)
      (hnew' : store'.knows fact' = false)
      (hfact : Counterpart ruler s options length final.facts fact fact') :
      InStep ruler s options length final.facts (store.add fact) (store'.add fact') := by
    rw [Store.add_of_not_knows hnew, Store.add_of_not_knows hnew']
    exact ⟨hstep.epsilon, hstep.epsilon', List.rel_append hstep.facts (.cons hfact .nil)⟩
  cases hfact with
  | counterpart hfact =>
      have hknows := hstep.knows_eq hsame hfact
      cases hknown : store.knows fact with
      | true => rwa [Store.add_of_knows hknown, Store.add_of_knows (hknows.trans hknown)]
      | false => exact happend hknown (hknows.trans hknown) hfact
  | @crossing q l k a b hl hk ha hb =>
      have hknows : store'.knows (.fixed q b) = store.knows (.fixed q a) := by
        rw [Store.knows_fixed, Store.knows_fixed, (hstep.agreeOn q).position]
      cases hknown : store.knows (.fixed q a) with
      | true => rwa [Store.add_of_knows hknown, Store.add_of_knows (hknows.trans hknown)]
      | false =>
          -- a position that is new stays, so the lines cross there with either length
          have hfound : .fixed q a ∈ final.facts :=
            hfinal.mem (by simp [Store.add_of_not_knows hknown])
          obtain rfl : a = b :=
            Option.some.inj ((hsame.crosses q l k a hl hk hfound ha).symm.trans hb)
          exact happend hknown (hknows.trans hknown) (.same (by simp [Fact.kind]))

theorem inStep_addAll (hsame : Interchangeable ruler s options length final.facts)
    {concluded concluded' : List (Fact Float)}
    (hconcluded : List.Forall₂ (Twin ruler s options length final.facts) concluded concluded')
    (hstep : InStep ruler s options length final.facts store store')
    (hfinal : (store.addAll concluded).Grows final) :
    InStep ruler s options length final.facts (store.addAll concluded)
      (store'.addAll concluded') := by
  refine Store.forall_foldl_of_grows Store.grows_add ?_ hconcluded (.refl store) hstep hfinal
  exact fun now now' fact fact' _ hnow hfact hend => inStep_add hsame hnow hfact hend

variable {initial : OrderedMap Handle (Point Float)}

theorem Twin.refl_of_mem {rule : Rule} (hrule : rule ≠ .axisLinesAndCircles)
    (hgrows : store.Grows final) {fact conclusion : Fact Float} (hfact : fact ∈ store.facts)
    (h : conclusion ∈ rule.conclusions ⟨ruler, initial, options⟩ store fact) :
    Twin ruler s options length final.facts conclusion conclusion := by
  by_cases hkind : conclusion.kind = .onLine
  · cases conclusion <;> cases hkind
    rename_i q a b
    have hguides : Guides ruler s options store.facts q fun _ => ⟨a, b⟩ :=
      guides_of_mem_conclusions hrule hfact h
    exact .counterpart (.guide (hguides.mono fun _ => hgrows.mem))
  · exact .counterpart (.same hkind)

theorem twin_axisLinesAndCircles (hgrows : store.Grows final)
    (hstep : InStep ruler s options length final.facts store store') {p : Handle} {a : Point Float}
    (hfixed : .fixed p a ∈ store.facts) :
    List.Forall₂ (Twin ruler s options length final.facts)
      (Rule.axisLinesAndCirclesFrom ⟨ruler, initial, options⟩ store p a)
      (Rule.axisLinesAndCirclesFrom ⟨ruler, initial, { options with axisLength := length }⟩ store' p
        a) := by
  obtain ⟨-, hverticals, hhorizontals, hdistances⟩ := hstep.agreeOn p
  simp only [Rule.axisLinesAndCirclesFrom, ← hverticals, ← hhorizontals, ← hdistances]
  have hguide (axis : Axis) (q : Handle) (haligned : Fact.aligned axis p q ∈ store.facts) :
      Twin ruler s options length final.facts
        (.onLine q (axis.helper a options.axisLength).a (axis.helper a options.axisLength).b)
        (.onLine q (axis.helper a length).a (axis.helper a length).b) :=
    .counterpart (.guide (.of_helper (hgrows.mem hfixed) (hgrows.mem haligned)))
  refine List.rel_append (List.rel_append ?_ ?_) ?_
  · rw [List.forall₂_map_left_iff, List.forall₂_map_right_iff, List.forall₂_same]
    exact fun q hq => hguide .vertical q (Store.mem_verticalsFrom.mp hq)
  · rw [List.forall₂_map_left_iff, List.forall₂_map_right_iff, List.forall₂_same]
    exact fun q hq => hguide .horizontal q (Store.mem_horizontalsFrom.mp hq)
  · rw [List.forall₂_map_left_iff, List.forall₂_map_right_iff, List.forall₂_same]
    exact fun d _ => .counterpart (.same (by simp [Fact.kind]))

theorem twin_linesFrom (hsame : Interchangeable ruler s options length final.facts)
    (hstep : InStep ruler s options length final.facts store store') {q : Handle}
    {line : Float → Line Float} (hline : Guides ruler s options final.facts q line) :
    List.Forall₂ (Twin ruler s options length final.facts)
      (Rule.linesFrom store q (line options.axisLength))
      (Rule.linesFrom store' q (line length)) := by
  refine List.rel_filterMap ?_ (hstep.linesOf q)
  rintro _ _ ⟨other, hother, rfl, rfl⟩
  have hmeet := (hline.alike hsame).isSome_meetLine (hother.alike hsame)
  cases ha : (line options.axisLength).meetLine (other options.axisLength) with
  | none =>
      rw [ha, Option.isSome_none, Option.isSome_eq_false_iff, Option.isNone_iff_eq_none] at hmeet
      simp only [ha, hmeet, Option.map_none]
      exact .none
  | some a =>
      rw [ha, Option.isSome_some] at hmeet
      obtain ⟨b, hb⟩ := Option.isSome_iff_exists.mp hmeet
      simp only [ha, hb, Option.map_some]
      exact .some (.crossing hline hother ha hb)

-- Only the lines along an axis are drawn with the length.
theorem conclusions_relength {rule : Rule} (hrule : rule ≠ .axisLinesAndCircles)
    (initial : OrderedMap Handle (Point Float)) (options : Options Float) (length : Float)
    (store : Store Float) (fact : Fact Float) :
    rule.conclusions ⟨ruler, initial, { options with axisLength := length }⟩ store fact =
      rule.conclusions ⟨ruler, initial, options⟩ store fact := by
  cases rule <;> cases fact <;> first | rfl | exact absurd rfl hrule

theorem conclusions_eq_of_inStep {rule : Rule} (hrule : rule ≠ .axisLinesAndCircles)
    (hstep : InStep ruler s options length final.facts store store') {fact : Fact Float}
    (hkind : fact.kind ≠ .onLine) :
    rule.conclusions ⟨ruler, initial, { options with axisLength := length }⟩ store' fact =
      rule.conclusions ⟨ruler, initial, options⟩ store fact := by
  rw [conclusions_relength hrule]
  cases hintersects : rule.intersects with
  | false =>
      exact (Rule.conclusions_congr_of_derives hintersects rfl fun p _ => hstep.agreeOn p).symm
  | true =>
      cases fact with
      | onLine => exact absurd rfl hkind
      | onCircle p center radius =>
          cases rule <;> first | rfl | cases hintersects
          simp only [Rule.conclusions, Rule.circlesFrom, hstep.circlesOf_eq]
      | _ => cases rule <;> first | rfl | cases hintersects

theorem twin_conclusions (hsame : Interchangeable ruler s options length final.facts)
    (rule : Rule) (hgrows : store.Grows final)
    (hstep : InStep ruler s options length final.facts store store') {fact fact' : Fact Float}
    (hfact : Counterpart ruler s options length final.facts fact fact')
    (hmem : fact ∈ store.facts) :
    List.Forall₂ (Twin ruler s options length final.facts)
      (rule.conclusions ⟨ruler, initial, options⟩ store fact)
      (rule.conclusions ⟨ruler, initial, { options with axisLength := length }⟩ store' fact') := by
  cases hfact with
  | @guide q line hline =>
      cases rule with
      | linesWithCircles =>
          have heq : Rule.linesWithCirclesFrom
              ⟨ruler, initial, { options with axisLength := length }⟩ store' q (line length) =
                Rule.linesWithCirclesFrom ⟨ruler, initial, options⟩ store q
                  (line options.axisLength) := by
            simp only [Rule.linesWithCirclesFrom, hstep.circlesOf_eq,
              (hline.alike hsame).meetCircle]
          change List.Forall₂ _ (Rule.linesWithCirclesFrom _ _ _ _)
            (Rule.linesWithCirclesFrom _ _ _ (line length))
          rw [heq, List.forall₂_same]
          intro conclusion hconclusion
          have hrule : Rule.linesWithCircles ≠ .axisLinesAndCircles := by decide
          exact Twin.refl_of_mem hrule hgrows hmem hconclusion
      | lines => exact twin_linesFrom hsame hstep hline
      | _ => exact .nil
  | same hkind =>
      by_cases hrule : rule = .axisLinesAndCircles
      · subst hrule
        cases fact with
        | fixed p a => exact twin_axisLinesAndCircles hgrows hstep hmem
        | _ => exact .nil
      · rw [conclusions_eq_of_inStep hrule hstep hkind, List.forall₂_same]
        exact fun conclusion hconclusion => Twin.refl_of_mem hrule hgrows hmem hconclusion

theorem inStep_run (hsame : Interchangeable ruler s options length final.facts) (rule : Rule)
    (hstep : InStep ruler s options length final.facts store store')
    (hfinal : (rule.run ⟨ruler, initial, options⟩ store).Grows final) :
    InStep ruler s options length final.facts (rule.run ⟨ruler, initial, options⟩ store)
      (rule.run ⟨ruler, initial, { options with axisLength := length }⟩ store') := by
  have hfacts : List.Forall₂
      (fun fact fact' =>
        fact ∈ store.facts ∧ Counterpart ruler s options length final.facts fact fact')
      (store.ofKind rule.trigger) (store'.ofKind rule.trigger) :=
    (List.forall₂_and_left _ _).mpr
      ⟨fun fact hfact => (Store.mem_ofKind.mp hfact).1, hstep.ofKind rule.trigger⟩
  refine Store.forall_foldl_of_grows (fun s fact => s.grows_addAll _) ?_ hfacts (.refl store)
    hstep hfinal
  rintro now now' fact fact' hsince hnow ⟨hmem, hfact⟩ hend
  have hgrows : now.Grows final := (now.grows_addAll _).trans hend
  exact inStep_addAll hsame (twin_conclusions hsame rule hgrows hnow hfact (hsince.mem hmem)) hnow
    hend

theorem inStep_pass (hsame : Interchangeable ruler s options length final.facts)
    (hstep : InStep ruler s options length final.facts store store')
    (hfinal : (pass ⟨ruler, initial, options⟩ store).Grows final) :
    InStep ruler s options length final.facts (pass ⟨ruler, initial, options⟩ store)
      (pass ⟨ruler, initial, { options with axisLength := length }⟩ store') := by
  have hrules : List.Forall₂ Eq Rule.all Rule.all := List.forall₂_eq_eq_eq ▸ rfl
  refine Store.forall_foldl_of_grows (fun s rule => rule.grows_run _ s) ?_ hrules (.refl store)
    hstep hfinal
  rintro now now' rule _ - hnow rfl hend
  exact inStep_run hsame rule hnow hend

theorem grows_pass_propagateFrom (ctx : Context Float) (left done : Nat) (store : Store Float) :
    (pass ctx store).Grows (propagateFrom ctx (left + 1) done store).store := by
  by_cases hstable : pass ctx store = store
  · rw [propagateFrom_of_stable left done hstable, hstable]
    exact .refl store
  · rw [propagateFrom_of_learning left done hstable]
    exact grows_propagateFrom ctx left (done + 1) _

-- Both runs learn something in the same passes and end with the same one.
theorem inStep_propagateFrom (hsame : Interchangeable ruler s options length final.facts)
    (left done : Nat) (hstep : InStep ruler s options length final.facts store store')
    (hfinal : (propagateFrom ⟨ruler, initial, options⟩ left done store).store.Grows final) :
    InStep ruler s options length final.facts
      (propagateFrom ⟨ruler, initial, options⟩ left done store).store
      (propagateFrom ⟨ruler, initial, { options with axisLength := length }⟩ left done
        store').store ∧
    (propagateFrom ⟨ruler, initial, { options with axisLength := length }⟩ left done
      store').passes = (propagateFrom ⟨ruler, initial, options⟩ left done store).passes ∧
    (propagateFrom ⟨ruler, initial, { options with axisLength := length }⟩ left done
      store').converged = (propagateFrom ⟨ruler, initial, options⟩ left done store).converged := by
  induction left generalizing done store store' with
  | zero => exact ⟨hstep, rfl, rfl⟩
  | succ left ih =>
      have hpass :=
        inStep_pass hsame hstep ((grows_pass_propagateFrom _ left done store).trans hfinal)
      simp only [propagateFrom, hstep.size_eq, hpass.size_eq] at hfinal ⊢
      by_cases hstable : (pass ⟨ruler, initial, options⟩ store).size = store.size
      · simp only [hstable, if_true]
        exact ⟨hpass, trivial, trivial⟩
      · simp only [hstable, if_false] at hfinal ⊢
        exact ih (done + 1) hpass hfinal

end Run

end Solve

end PlaneSketch
