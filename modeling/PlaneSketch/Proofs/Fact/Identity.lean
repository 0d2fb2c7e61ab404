import Mathlib.Data.List.Pairwise
import PlaneSketch.Proofs.Fact.Selection

namespace PlaneSketch

variable {α : Type}

namespace Fact

-- What a fact tells of which a store keeps one value only: where a point is, how far one point is
-- from another, how far to the left of a line it is.
inductive Identity where
  | position (point : Handle)
  | distance (first second : Handle)
  | lineDistance (point start stop : Handle)
deriving DecidableEq

def identity? : Fact α → Option Identity
  | fixed p _ => some (.position p)
  | distance p q _ => some (.distance p q)
  | lineDistance p a b _ => some (.lineDistance p a b)
  | _ => none

-- The question for the value.
def Identity.pattern : Identity → Pattern α
  | position p => ⟨.fixed, [(.point, some (.handle p))]⟩
  | distance p q => ⟨.distance, [(.point1, some (.handle p)), (.point2, some (.handle q))]⟩
  | lineDistance p a b =>
      ⟨.lineDistance,
        [(.point, some (.handle p)), (.line1, some (.handle a)), (.line2, some (.handle b))]⟩

def tells (identity : Identity) (fact : Fact α) : Bool :=
  decide (fact.identity? = some identity)

variable [Scalar α] {bound : α} {identity : Identity}

-- A repetition tells the same, and whatever tells the same is a repetition.
theorem sameAs_of_tells {known fact : Fact α} (h : fact.tells identity = true) :
    known.sameAs bound fact = known.tells identity := by
  rw [tells, decide_eq_true_eq] at h
  rw [Bool.eq_iff_iff, tells, decide_eq_true_eq]
  cases fact <;> cases h <;> cases known <;> simp [sameAs, identity?, and_assoc]

theorem tells_eq_of_sameAs {known fact : Fact α} (h : known.sameAs bound fact = true) :
    known.tells identity = fact.tells identity := by
  cases known <;> cases fact <;> simp_all [sameAs, tells, identity?]

theorem accepts_pattern (identity : Identity) (bound : α) (fact : Fact α) :
    (fact.kind == (identity.pattern : Pattern α).kind && identity.pattern.accepts bound fact) =
      fact.tells identity := by
  have hpoint2 : (Field.point2 == Field.point1) = false := rfl
  have hline1 : (Field.line1 == Field.point) = false := rfl
  have hline2 : (Field.line2 == Field.point) = false := rfl
  have hline : (Field.line2 == Field.line1) = false := rfl
  rw [Bool.eq_iff_iff, tells, decide_eq_true_eq]
  cases identity <;> cases fact <;>
    simp [Identity.pattern, Pattern.accepts, Pattern.admits, Pattern.meets, identity?, kind,
      part?, parts, Part.agrees, List.lookup_cons, hpoint2, hline1, hline2, hline]

end Fact

namespace Store

variable [Scalar α]

theorem matching_pattern (s : Store α) (identity : Fact.Identity) :
    s.matching identity.pattern = s.facts.filter (·.tells identity) := by
  rw [matching, ofKind, List.filter_filter]
  refine List.filter_congr fun fact _ => ?_
  rw [Bool.and_comm, Fact.accepts_pattern]

theorem knows_of_tells {identity : Fact.Identity} {fact : Fact α} (s : Store α)
    (h : fact.tells identity = true) : s.knows fact = s.facts.any (·.tells identity) := by
  have hsame : (fun known : Fact α => known.sameAs s.epsilon fact) = (·.tells identity) :=
    funext fun known => Fact.sameAs_of_tells h
  rw [knows, hsame]

-- Where no fact repeats another, only one tells of each position and each distance.
theorem Distinct.eq_of_tells {s : Store α} (h : s.Distinct) {identity : Fact.Identity}
    {first second : Fact α} (hfirst : first ∈ s.facts) (hsecond : second ∈ s.facts)
    (htells : first.tells identity = true) (htells' : second.tells identity = true) :
    first = second := by
  have hpairwise : s.facts.Pairwise fun known later =>
      ¬(known.tells identity = true ∧ later.tells identity = true) := by
    refine h.imp fun hsame => ?_
    rintro ⟨hknown, hlater⟩
    rw [Fact.sameAs_of_tells hlater, hknown] at hsame
    cases hsame
  have hsymm : Std.Symm fun known later : Fact α =>
      ¬(known.tells identity = true ∧ later.tells identity = true) :=
    ⟨fun _ _ hnot h => hnot h.symm⟩
  by_contra hne
  exact hpairwise.forall hfirst hsecond hne ⟨htells, htells'⟩

-- Of the facts that tell the same, the first one is kept and the others are dropped.
theorem addAll_of_tells {identity : Fact.Identity} {facts : List (Fact α)}
    (h : ∀ fact ∈ facts, fact.tells identity = true) (epsilon : α) :
    ((empty epsilon).addAll facts).facts = facts.head?.toList := by
  cases facts with
  | nil => rfl
  | cons first rest =>
      obtain ⟨hfirst, hrest⟩ := List.forall_mem_cons.mp h
      have hadded : (empty epsilon).add first = ⟨epsilon, [first]⟩ := by
        rw [add_of_not_knows (by rfl)]
        rfl
      have hdropped : (⟨epsilon, [first]⟩ : Store α).addAll rest = ⟨epsilon, [first]⟩ := by
        refine addAll_eq_self_iff.mpr fun fact hfact => ?_
        rw [knows_of_tells _ (hrest fact hfact), List.any_cons, hfirst, Bool.true_or]
      rw [addAll_cons, hadded, hdropped]
      rfl

theorem filter_tells_addAll (epsilon : α) (calls : List (Fact α)) (identity : Fact.Identity) :
    ((empty epsilon).addAll calls).facts.filter (·.tells identity) =
      (calls.find? (·.tells identity)).toList := by
  have hselect : ((empty epsilon).addAll calls).select (·.tells identity) =
      (empty epsilon).addAll (calls.filter (·.tells identity)) :=
    select_addAll Fact.tells_eq_of_sameAs (empty epsilon) calls
  have hkept : ∀ fact ∈ calls.filter (·.tells identity), fact.tells identity = true :=
    fun fact hfact => (List.mem_filter.mp hfact).2
  calc ((empty epsilon).addAll calls).facts.filter (·.tells identity)
      = (((empty epsilon).addAll calls).select (·.tells identity)).facts := rfl
    _ = ((empty epsilon).addAll (calls.filter (·.tells identity))).facts := by rw [hselect]
    _ = (calls.find? (·.tells identity)).toList := by
        rw [addAll_of_tells hkept, List.head?_filter]

-- Whatever was added to a store in whatever order, and however loosely facts are compared: no fact
-- repeats an earlier one, the next fact is either new and comes last or changes nothing, and what
-- the first call told of a position or a distance is what the store answers ever after.
theorem addAll_keeps_first (epsilon : α) (calls : List (Fact α)) :
    ((empty epsilon).addAll calls).Distinct ∧
    (∀ fact : Fact α,
      ((empty epsilon).addAll calls).isNew fact = false ∧
        (empty epsilon).addAll (calls ++ [fact]) = (empty epsilon).addAll calls ∨
      ((empty epsilon).addAll calls).isNew fact = true ∧
        (empty epsilon).addAll (calls ++ [fact]) =
          ⟨epsilon, ((empty epsilon).addAll calls).facts ++ [fact]⟩) ∧
    ∀ identity : Fact.Identity,
      ((empty epsilon).addAll calls).facts.filter (·.tells identity) =
        (calls.find? (·.tells identity)).toList ∧
      ∀ later : List (Fact α),
        (((empty epsilon).addAll (calls ++ later)).matching identity.pattern).head? =
          (calls.find? (·.tells identity)).or (later.find? (·.tells identity)) := by
  refine ⟨(distinct_empty epsilon).addAll calls, fun fact => ?_, fun identity => ⟨?_, ?_⟩⟩
  · have hepsilon : ((empty epsilon).addAll calls).epsilon = epsilon :=
      (grows_addAll (empty epsilon) calls).epsilon
    have hnext : (empty epsilon).addAll (calls ++ [fact]) =
        ((empty epsilon).addAll calls).add fact := by
      rw [addAll, List.foldl_append]
      rfl
    rw [hnext, isNew]
    cases hknown : ((empty epsilon).addAll calls).knows fact with
    | true => exact .inl ⟨rfl, add_of_knows hknown⟩
    | false =>
        refine .inr ⟨rfl, ?_⟩
        rw [add_of_not_knows hknown, hepsilon]
  · exact filter_tells_addAll epsilon calls identity
  · intro later
    rw [matching_pattern, filter_tells_addAll, List.find?_append, Option.head?_toList]

end Store

end PlaneSketch
