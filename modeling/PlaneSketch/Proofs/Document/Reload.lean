import PlaneSketch.Proofs.Document.Loading
import PlaneSketch.Proofs.Document.Written

namespace PlaneSketch

namespace Element

-- The same element under other handles.
def rename (f : Handle → Handle) : Element → Element
  | point id position => point (f id) position
  | line id a b => line (f id) (f a) (f b)
  | arc id a b center => arc (f id) (f a) (f b) (f center)
  | fixed id p position => fixed (f id) (f p) position
  | axisAligned id axis a b => axisAligned (f id) axis (f a) (f b)
  | distance id a b value placement measureOnly =>
      distance (f id) (f a) (f b) value placement measureOnly
  | lineDistance id p l value placement measureOnly =>
      lineDistance (f id) (f p) (f l) value placement measureOnly
  | pointOnLine id p l => pointOnLine (f id) (f p) (f l)
  | pointOnArc id p a => pointOnArc (f id) (f p) (f a)
  | foreign id kindName => foreign (f id) kindName

variable (f : Handle → Handle) (e : Element)

@[simp] theorem id_rename : (e.rename f).id = f e.id := by
  cases e <;> rfl

@[simp] theorem kind_rename : (e.rename f).kind = e.kind := by
  cases e <;> rfl

theorem references_rename :
    (e.rename f).references = e.references.map fun r => (f r.1, r.2) := by
  cases e <;> rfl

variable {f e}

theorem rename_eq_self (hid : f e.id = e.id) (hrefs : ∀ r ∈ e.references, f r.1 = r.1) :
    e.rename f = e := by
  cases e <;> simp_all [rename, Element.id, references]

end Element

namespace Document

open Json (Value)

@[simp] theorem Entry.get?_nil (key : String) : Entry.get? [] key = none := rfl

@[simp] theorem Entry.get?_cons (name key : String) (value : Value) (rest : Entry) :
    Entry.get? ((Text.ofString name, value) :: rest) key =
      if name = key then some value else Entry.get? rest key := by
  unfold Entry.get?
  rw [List.lookup_cons]
  by_cases h : name = key
  · simp [h]
  · have hne : Text.ofString key ≠ Text.ofString name :=
      fun heq => h (Text.ofString_inj.mp heq).symm
    simp [h, beq_eq_false_iff_ne.mpr hne]

theorem Entry.get?_map (names : List String) (value : String → Value) {key : String}
    (h : key ∈ names) :
    Entry.get? (names.map fun name => (Text.ofString name, value name)) key = some (value key) := by
  induction names with
  | nil => cases h
  | cons name rest ih =>
      rw [List.map_cons, Entry.get?_cons]
      split
      · rename_i heq
        rw [heq]
      · rename_i hne
        exact ih ((List.mem_cons.mp h).resolve_left (Ne.symm hne))

-- The members of the entry that an element has in a document.
def dumpEntry (s : Sketch) (e : Element) : Entry :=
  match writtenElement s e with
  | some (_, .obj members) => members
  | _ => []

theorem writtenElement_eq (s : Sketch) {e : Element} (h : e.kind ≠ .foreign) :
    writtenElement s e = some (listOf e.kind, .obj (dumpEntry s e)) := by
  cases e with
  | foreign id kindName => exact absurd rfl h
  | _ => rfl

-- How the entries of a list are loaded.
def loaderOf : String → Loading → Place → Entry → Except LoadError Loading
  | "points" => loadPoint
  | "lines" => loadLine
  | "arcs" => loadArc
  | _ => loadConstraint

theorem loaderOf_constraints : loaderOf "constraints" = loadConstraint := rfl

section Entries

variable {l : Loading} {place : Place} {entry : Entry} {s : Sketch} {e : Element}
  {f : Handle → Handle}

theorem get?_id_dumpEntry (h : e.kind ≠ .foreign) :
    (dumpEntry s e).get? "id" = some (.str (s.name e.id)) := by
  cases e with
  | foreign id kindName => exact absurd rfl h
  | _ => simp [dumpEntry, writtenElement, dumpElement, Element.id]

theorem get?_role_dumpEntry {key : String} {id : Handle} {kind : Element.Kind}
    (h : (key, id, kind) ∈ e.roles) : (dumpEntry s e).get? key = some (.str (s.name id)) := by
  have hroles : ∀ role ∈ e.roles, (dumpEntry s e).get? role.1 = some (.str (s.name role.2.1)) := by
    cases e <;> simp [Element.roles, dumpEntry, writtenElement, dumpElement]
  exact hroles _ h

theorem label_of_get? {name : Text} (h : entry.get? "id" = some (.str name)) :
    l.label place entry = if (l.handles.lookup name).isSome then .error (.repeatedId place name)
      else .ok (some name) := by
  simp only [Loading.label, Entry.get, h]
  rfl

theorem reference_of_get? {key : String} {kind : Element.Kind} {name : Text} {id : Handle}
    (h : entry.get? key = some (.str name)) (hname : l.handles.lookup name = some id)
    (hkind : l.builder.kindOf id = .ok kind) : l.reference place entry key kind = .ok id := by
  have hasName : (Value.str name).asName = name := rfl
  simp only [Loading.reference, h, hasName, hname, hkind, if_true]

-- What an element is made from is as it was after reading it back.

@[simp] theorem toFloat_float (place : Place) (x : Float) : toFloat place (.float x) = .ok x := rfl

@[simp] theorem toPosition_dump (place : Place) (p : Point Float) :
    toPosition place (.obj (dumpPosition p)) = .ok p := by
  simp only [toPosition, dumpPosition, Entry.get?_cons]
  rfl

@[simp] theorem toPlacement_dump (place : Place) (placement : Placement Float) :
    toPlacement place (dumpPlacement placement) = .ok placement := by
  simp only [toPlacement, dumpPlacement, Entry.get?_cons]
  rfl

@[simp] theorem word?_str (word : String) : (Value.str word).word? = some word :=
  Text.string?_ofString word

@[simp] theorem toAxis_dump (place : Place) (axis : Axis) :
    toAxis place (.str axis.name) = .ok axis := by
  cases axis <;> simp [toAxis, Axis.ofName?, Axis.name]

-- Only what is made from the next handle counts.
theorem add_congr {make make' : Handle → Element} (label : Option Text)
    (h : make l.builder.next = make' l.builder.next) : l.add label make = l.add label make' := by
  simp only [Loading.add, Builder.add, Builder.allocate, h]

-- A name that was given before is refused before anything else is looked at.
theorem loaderOf_repeated {name : Text} (h : entry.get? "id" = some (.str name))
    (hname : (l.handles.lookup name).isSome = true) (list : String) :
    loaderOf list l place entry = .error (.repeatedId place name) := by
  have hlabel : l.label place entry = .error (.repeatedId place name) := by
    rw [label_of_get? h, if_pos hname]
  have hrequired : l.requiredLabel place entry = .error (.repeatedId place name) := by
    rw [Loading.requiredLabel, hlabel]
    rfl
  unfold loaderOf
  split
  · rw [loadPoint, hrequired]
    rfl
  · rw [loadLine, hrequired]
    rfl
  · rw [loadArc, hrequired]
    rfl
  · rw [loadConstraint, hlabel]
    rfl

-- The entry of an element under a new name adds that element again, with the handles that the
-- names stand for now.
theorem loaderOf_dumpEntry (hknown : e.kind ≠ .foreign)
    (hfresh : l.handles.lookup (s.name e.id) = none) (hid : l.builder.next = f e.id)
    (hrefs : ∀ r ∈ e.references, l.handles.lookup (s.name r.1) = some (f r.1) ∧
      l.builder.kindOf (f r.1) = .ok r.2) :
    loaderOf (listOf e.kind) l place (dumpEntry s e) =
      .ok (l.add (some (s.name e.id)) fun _ => e.rename f) := by
  have hlabel : l.label place (dumpEntry s e) = .ok (some (s.name e.id)) := by
    rw [label_of_get? (get?_id_dumpEntry hknown), hfresh]
    rfl
  have hrequired : l.requiredLabel place (dumpEntry s e) = .ok (s.name e.id) := by
    rw [Loading.requiredLabel, hlabel]
    rfl
  have href {key : String} {h : Handle} {kind : Element.Kind} (hrole : (key, h, kind) ∈ e.roles) :
      l.reference place (dumpEntry s e) key kind = .ok (f h) := by
    have hmem : (h, kind) ∈ e.references := e.map_roles ▸ List.mem_map_of_mem hrole
    exact reference_of_get? (get?_role_dumpEntry hrole) (hrefs _ hmem).1 (hrefs _ hmem).2
  have hadd {made : Handle → Element} (hmade : made (f e.id) = e.rename f) :
      Except.ok (ε := LoadError) (l.add (some (s.name e.id)) made) =
        .ok (l.add (some (s.name e.id)) fun _ => e.rename f) :=
    congrArg Except.ok (add_congr _ (by rw [hid, hmade]))
  generalize hentry : dumpEntry s e = entry at hlabel hrequired href ⊢
  cases e with
  | point id position =>
      have hposition : entry.get? "position" = none := by
        simp [← hentry, dumpEntry, writtenElement, dumpElement, dumpPosition]
      have hx : entry.get "x" = .float position.x := by
        simp [← hentry, Entry.get, dumpEntry, writtenElement, dumpElement, dumpPosition]
      have hy : entry.get "y" = .float position.y := by
        simp [← hentry, Entry.get, dumpEntry, writtenElement, dumpElement, dumpPosition]
      simp only [loaderOf, Element.kind, listOf, loadPoint, hrequired, hposition, hx, hy]
      exact hadd rfl
  | line id a b =>
      have ha := href (.head _)
      have hb := href (.tail _ (.head _))
      simp only [loaderOf, Element.kind, listOf, loadLine, hrequired, ha, hb]
      exact hadd rfl
  | arc id a b center =>
      have ha := href (.head _)
      have hb := href (.tail _ (.head _))
      have hcenter := href (.tail _ (.tail _ (.head _)))
      simp only [loaderOf, Element.kind, listOf, loadArc, hrequired, ha, hb, hcenter]
      exact hadd rfl
  | fixed id p position =>
      have htype : entry.get "type" = .str "fixed" := by
        simp [← hentry, Entry.get, dumpEntry, writtenElement, dumpElement]
      have hp := href (.head _)
      have hposition : entry.get? "position" = some (.obj (dumpPosition position)) := by
        simp [← hentry, dumpEntry, writtenElement, dumpElement]
      simp only [Element.kind, listOf, loaderOf_constraints, loadConstraint, hlabel, htype,
        word?_str, hp, pinPosition, hposition, toPosition_dump]
      exact hadd rfl
  | axisAligned id axis a b =>
      have htype : entry.get "type" = .str "axis_aligned" := by
        simp [← hentry, Entry.get, dumpEntry, writtenElement, dumpElement]
      have haxis : entry.get "axis" = .str axis.name := by
        simp [← hentry, Entry.get, dumpEntry, writtenElement, dumpElement]
      have ha := href (.head _)
      have hb := href (.tail _ (.head _))
      simp only [Element.kind, listOf, loaderOf_constraints, loadConstraint, hlabel, htype,
        word?_str, haxis, toAxis_dump, ha, hb]
      exact hadd rfl
  | distance id a b value placement measureOnly =>
      have htype : entry.get "type" = .str "point_point_distance" := by
        simp [← hentry, Entry.get, dumpEntry, writtenElement, dumpElement]
      have hvalue : entry.get "distance" = .float value := by
        simp [← hentry, Entry.get, dumpEntry, writtenElement, dumpElement]
      have hplacement : entry.get "cosmetic" = dumpPlacement placement := by
        simp [← hentry, Entry.get, dumpEntry, writtenElement, dumpElement]
      have hmeasure : entry.get "measure_only" = .bool measureOnly := by
        simp [← hentry, Entry.get, dumpEntry, writtenElement, dumpElement]
      have ha := href (.head _)
      have hb := href (.tail _ (.head _))
      simp only [Element.kind, listOf, loaderOf_constraints, loadConstraint, hlabel, htype,
        word?_str, ha, hb, hvalue, toFloat_float, hplacement, toPlacement_dump, hmeasure]
      exact hadd rfl
  | lineDistance id p line value placement measureOnly =>
      have htype : entry.get "type" = .str "point_line_distance" := by
        simp [← hentry, Entry.get, dumpEntry, writtenElement, dumpElement]
      have hvalue : entry.get "distance" = .float value := by
        simp [← hentry, Entry.get, dumpEntry, writtenElement, dumpElement]
      have hplacement : entry.get "cosmetic" = dumpPlacement placement := by
        simp [← hentry, Entry.get, dumpEntry, writtenElement, dumpElement]
      have hmeasure : entry.get "measure_only" = .bool measureOnly := by
        simp [← hentry, Entry.get, dumpEntry, writtenElement, dumpElement]
      have hp := href (.head _)
      have hline := href (.tail _ (.head _))
      simp only [Element.kind, listOf, loaderOf_constraints, loadConstraint, hlabel, htype,
        word?_str, hp, hline, hvalue, toFloat_float, hplacement, toPlacement_dump, hmeasure]
      exact hadd rfl
  | pointOnLine id p line =>
      have htype : entry.get "type" = .str "point_on_line" := by
        simp [← hentry, Entry.get, dumpEntry, writtenElement, dumpElement]
      have hp := href (.head _)
      have hline := href (.tail _ (.head _))
      simp only [Element.kind, listOf, loaderOf_constraints, loadConstraint, hlabel, htype,
        word?_str, hp, hline]
      exact hadd rfl
  | pointOnArc id p arc =>
      have htype : entry.get "type" = .str "point_on_arc" := by
        simp [← hentry, Entry.get, dumpEntry, writtenElement, dumpElement]
      have hp := href (.head _)
      have harc := href (.tail _ (.head _))
      simp only [Element.kind, listOf, loaderOf_constraints, loadConstraint, hlabel, htype,
        word?_str, hp, harc]
      exact hadd rfl
  | foreign id kindName => exact absurd rfl hknown

end Entries

-- An element as it comes back: under its name in the document and under a new handle.
def itemOf (s : Sketch) (f : Handle → Handle) (e : Element) : Item :=
  (some (s.name e.id), e.rename f)

-- The name that an element has in the document.
def nameOf (s : Sketch) (e : Element) : Text := s.name e.id

theorem named_itemOf (s : Sketch) (f : Handle → Handle) (elements : List Element) :
    named (elements.map (itemOf s f)) = elements.map fun e => (nameOf s e, f e.id) := by
  rw [named, List.filterMap_map]
  simp [Function.comp_def, itemOf, nameOf]

-- What reading elements back in this order comes to. It goes through just if their names differ.
def Reads (s : Sketch) (f : Handle → Handle) (elements : List Element)
    (result : Except LoadError Loading) : Prop :=
  ((elements.map (nameOf s)).Nodup ∧
      ∃ l, result = .ok l ∧ l.Shows (elements.map (itemOf s f))) ∨
    (¬(elements.map (nameOf s)).Nodup ∧ ∃ place name, result = .error (.repeatedId place name))

section Runs

variable {s : Sketch} {f : Handle → Handle} {l : Loading} {before : List Element}

theorem reads_of_shows (h : l.Shows (before.map (itemOf s f))) : Reads s f before (.ok l) := by
  have hnames := h.distinct
  rw [named_itemOf, List.map_map] at hnames
  exact .inl ⟨hnames, l, rfl, h⟩

theorem Reads.bind {result : Except LoadError Loading} {next : Loading → Except LoadError Loading}
    {more : List Element} (h : Reads s f before result)
    (hnext : ∀ l : Loading, l.Shows (before.map (itemOf s f)) →
      Reads s f (before ++ more) (next l)) :
    Reads s f (before ++ more) (result >>= next) := by
  rcases h with ⟨-, l, rfl, hl⟩ | ⟨hnames, place, name, rfl⟩
  · exact hnext l hl
  · refine .inr ⟨fun hall => hnames ?_, place, name, rfl⟩
    rw [List.map_append] at hall
    exact hall.of_append_left

-- One more entry. Its references are resolved by their names, which are those of elements that
-- have come back already.
theorem reads_append (h : l.Shows (before.map (itemOf s f))) {e : Element}
    (hknown : e.kind ≠ .foreign) (hid : f e.id = before.length)
    (hrefs : ∀ r ∈ e.references, ∃ target ∈ before, target.id = r.1 ∧ target.kind = r.2)
    (place : Place) :
    Reads s f (before ++ [e]) (loaderOf (listOf e.kind) l place (dumpEntry s e)) := by
  have hnext : l.builder.next = f e.id := by rw [h.next, hid, List.length_map]
  have hnames : (before.map (nameOf s)).Nodup := by
    have hdistinct := h.distinct
    rwa [named_itemOf, List.map_map] at hdistinct
  have hlookup : l.handles.lookup (s.name e.id) = none ↔ nameOf s e ∉ before.map (nameOf s) := by
    rw [h.lookup_eq_none_iff, named_itemOf, List.map_map]
    rfl
  by_cases hfresh : nameOf s e ∈ before.map (nameOf s)
  · refine .inr ⟨fun hall => ?_, place, nameOf s e, ?_⟩
    · rw [List.map_append, List.map_singleton] at hall
      exact List.disjoint_of_nodup_append hall hfresh List.mem_cons_self
    · refine loaderOf_repeated (get?_id_dumpEntry hknown) ?_ _
      rw [Option.isSome_iff_ne_none, Ne, hlookup, not_not]
      exact hfresh
  · have hresolved : ∀ r ∈ e.references, l.handles.lookup (s.name r.1) = some (f r.1) ∧
        l.builder.kindOf (f r.1) = .ok r.2 := by
      intro r hr
      obtain ⟨target, htarget, hid, hkind⟩ := hrefs r hr
      refine ⟨h.lookup_eq_some_iff.mpr ?_, h.kindOf_eq_ok.mpr ?_⟩
      · rw [named_itemOf, List.mem_map]
        exact ⟨target, htarget, by rw [nameOf, hid]⟩
      · refine ⟨itemOf s f target, List.mem_map_of_mem htarget, ?_, ?_⟩
        · rw [itemOf, Element.id_rename, hid]
        · rw [itemOf, Element.kind_rename, hkind]
    have hname := hlookup.mpr hfresh
    have hrenamed : ∀ r ∈ (e.rename f).references, l.builder.kindOf r.1 = .ok r.2 := by
      rw [Element.references_rename]
      exact List.forall_mem_map.mpr fun r hr => (hresolved r hr).2
    have hadd := h.add (some (s.name e.id)) (fun _ => e.rename f) (by simpa using hname)
      (by rw [Element.id_rename, hnext]) hrenamed
    rw [loaderOf_dumpEntry hknown hname hnext hresolved]
    exact reads_of_shows (by rwa [List.map_append])

-- The entries of one list. What they refer to has come back before.
theorem reads_foldlM {list : String} {more : List Element}
    (h : l.Shows (before.map (itemOf s f)))
    (hmore : ∀ e ∈ more, e.kind ≠ .foreign ∧ listOf e.kind = list ∧
      ∀ r ∈ e.references, ∃ target ∈ before, target.id = r.1 ∧ target.kind = r.2)
    (hid : ∀ front e back, before ++ more = front ++ e :: back → f e.id = front.length) (k : Nat) :
    Reads s f (before ++ more) (((more.map (dumpEntry s)).zipIdx k).foldlM
      (fun l entry => loaderOf list l ⟨list, entry.2⟩ entry.1) l) := by
  induction more generalizing before l k with
  | nil =>
      rw [List.append_nil]
      exact reads_of_shows h
  | cons e rest ih =>
      obtain ⟨⟨hknown, hlist, hrefs⟩, hrest⟩ := List.forall_mem_cons.mp hmore
      have hstep := reads_append h hknown (hid before e rest rfl) hrefs ⟨list, k⟩
      rw [hlist] at hstep
      rw [List.append_cons] at hid ⊢
      refine hstep.bind fun l hl => ih hl (fun e he => ?_) hid (k + 1)
      obtain ⟨hknown, hlist, hrefs⟩ := hrest e he
      refine ⟨hknown, hlist, fun r hr => ?_⟩
      obtain ⟨target, htarget, hfound⟩ := hrefs r hr
      exact ⟨target, List.mem_append_left _ htarget, hfound⟩

end Runs

section Documents

variable {s : Sketch}

theorem entries_of_get? {document : Entry} {key : String} {found : List Entry}
    (h : document.get? key = some (.arr (found.map Value.obj))) :
    entries document key = .ok found := by
  have hmembers : found.mapM (m := Option) (fun members => pure (id members)) = some found :=
    List.mapM_pure.trans (congrArg some (List.map_id found))
  unfold entries
  rw [h, Option.getD_some]
  dsimp only
  rw [List.mapM_map]
  split
  · rename_i got hgot
    rw [Option.some.inj (hgot.symm.trans hmembers)]
  · rename_i hnone
    cases hnone.symm.trans hmembers

-- The entries of a list of the document are those of the elements that go there.
theorem entries_dump (hknown : ∀ e ∈ s.elements, e.kind ≠ .foreign) {list : String}
    (hlist : list ∈ listNames) {document : Entry} (hdump : written s = .obj document) :
    entries document list = .ok ((inList s.elements list).map (dumpEntry s)) := by
  have hdumped : s.elements.filterMap (writtenElement s) =
      s.elements.map fun e => (listOf e.kind, .obj (dumpEntry s e)) := by
    rw [← List.filterMap_eq_map]
    exact List.filterMap_congr fun e he => writtenElement_eq s (hknown e he)
  have hlists : (((s.elements.filterMap (writtenElement s)).filter fun entry => entry.1 == list).map
      (·.2)) = ((inList s.elements list).map (dumpEntry s)).map Value.obj := by
    rw [hdumped, List.filter_map, List.map_map, List.map_map]
    rfl
  cases hdump
  refine entries_of_get? ?_
  rw [Entry.get?_map listNames _ hlist, hlists]

theorem listOf_mem (kind : Element.Kind) : listOf kind ∈ listNames := by
  cases kind <;> simp [listOf, listNames]

-- Nothing is lost or made up in bringing elements into the order of a document.
theorem perm_inLists (elements : List Element) : (inLists elements).Perm elements := by
  simp only [inLists_eq]
  induction elements with
  | nil => rfl
  | cons e rest ih =>
      have hcons (list : String) : inList (e :: rest) list =
          if listOf e.kind = list then e :: inList rest list else inList rest list := by
        simp [inList, List.filter_cons]
      have hlist := listOf_mem e.kind
      simp only [listNames, List.mem_cons, List.not_mem_nil, or_false] at hlist
      have hmiddle (front back : List Element) : (front ++ e :: back).Perm (e :: (front ++ back)) :=
        List.perm_middle
      refine List.Perm.trans ?_ (ih.cons e)
      rcases hlist with h | h | h | h
      · simp [hcons, h]
      · simp [hcons, h]
      · simpa [hcons, h] using hmiddle (inList rest "points" ++ inList rest "lines") _
      · simpa [hcons, h] using
          hmiddle (inList rest "points" ++ inList rest "lines" ++ inList rest "arcs") _

-- The handle that an element comes back under: its place in the order of the document.
def index (s : Sketch) (id : Handle) : Handle :=
  (((inLists s.elements).map Element.id).idxOf id : Nat)

theorem index_eq (hs : s.Linked) {front back : List Element} {e : Element}
    (h : inLists s.elements = front ++ e :: back) : index s e.id = front.length := by
  have hdistinct : ((inLists s.elements).map Element.id).Nodup :=
    ((perm_inLists s.elements).map Element.id).nodup_iff.mpr hs.distinct
  rw [h, List.map_append, List.map_cons] at hdistinct
  have hnew : e.id ∉ front.map Element.id :=
    fun hmem => List.disjoint_of_nodup_append hdistinct hmem List.mem_cons_self
  rw [index, h, List.map_append, List.map_cons, List.idxOf_append_of_notMem hnew,
    List.idxOf_cons_self, List.length_map, Nat.add_zero]

-- The elements of the lists before a given one.
def inListsBefore (elements : List Element) (list : String) : List Element :=
  (listNames.takeWhile (· ≠ list)).flatMap (inList elements)

-- Whatever an element refers to is in a list before its own.
theorem exists_inListsBefore (hs : s.Linked) {e : Element} (he : e ∈ s.elements)
    {r : Handle × Element.Kind} (hr : r ∈ e.references) :
    ∃ target ∈ inListsBefore s.elements (listOf e.kind), target.id = r.1 ∧ target.kind = r.2 := by
  obtain ⟨target, htarget, hkind⟩ := hs.references e he r hr
  obtain ⟨hmem, hid⟩ := Sketch.mem_of_get? htarget
  have hbefore : ∀ r ∈ e.references, listOf r.2 ∈ listNames.takeWhile (· ≠ listOf e.kind) := by
    cases e <;> simp [Element.references, Element.kind, listOf, listNames]
  have hin : target ∈ inList s.elements (listOf r.2) :=
    List.mem_filter.mpr ⟨hmem, by simp [hkind]⟩
  exact ⟨target, List.mem_flatMap.mpr ⟨_, hbefore r hr, hin⟩, hid, hkind⟩

-- One list of the document, read back after those before it.
theorem reads_loadList (hs : s.Linked) (list : String) (hlist : list ∈ listNames)
    {document : Entry} (hdump : written s = .obj document) {l : Loading}
    (h : l.Shows ((inListsBefore s.elements list).map (itemOf s (index s)))) :
    Reads s (index s) (inListsBefore s.elements list ++ inList s.elements list)
      (loadList document list (loaderOf list) l) := by
  obtain ⟨rest, hall⟩ : ∃ rest, inLists s.elements =
      inListsBefore s.elements list ++ inList s.elements list ++ rest := by
    simp only [listNames, List.mem_cons, List.not_mem_nil, or_false] at hlist
    rcases hlist with rfl | rfl | rfl | rfl
    · exact ⟨(listNames.drop 1).flatMap (inList s.elements),
        by simp [inLists, inListsBefore, listNames]⟩
    · exact ⟨(listNames.drop 2).flatMap (inList s.elements),
        by simp [inLists, inListsBefore, listNames]⟩
    · exact ⟨(listNames.drop 3).flatMap (inList s.elements),
        by simp [inLists, inListsBefore, listNames]⟩
    · exact ⟨[], by simp [inLists, inListsBefore, listNames]⟩
  rw [loadList, entries_dump hs.known hlist hdump]
  refine reads_foldlM h (fun e he => ?_) (fun front e back heq => ?_) 0
  · obtain ⟨hmem, hkind⟩ := List.mem_filter.mp he
    have hkind : listOf e.kind = list := eq_of_beq hkind
    refine ⟨hs.known e hmem, hkind, fun r hr => ?_⟩
    rw [← hkind]
    exact exists_inListsBefore hs hmem hr
  · have hplace : inLists s.elements = front ++ e :: (back ++ rest) := by
      rw [hall, heq, List.append_assoc, List.cons_append]
    exact index_eq hs hplace

-- Reading back the document of a sketch: the elements list by list, each under its name and with
-- its place as its handle, unless two of them have one name.
theorem reads_dump (hs : s.Linked) : ∃ result, Reads s (index s) (inLists s.elements) result ∧
    load (written s) = result >>= fun l => .ok l.builder.build := by
  obtain ⟨document, hdump⟩ : ∃ document, written s = .obj document := ⟨_, rfl⟩
  let elements := s.elements
  have hpoints := reads_loadList hs "points" (by simp [listNames]) hdump .empty
  have hlines {l : Loading} :=
    reads_loadList hs "lines" (by simp [listNames]) hdump (l := l)
  have harcs {l : Loading} :=
    reads_loadList hs "arcs" (by simp [listNames]) hdump (l := l)
  have hconstraints {l : Loading} :=
    reads_loadList hs "constraints" (by simp [listNames]) hdump (l := l)
  have hbeforeLines : inListsBefore elements "lines" =
      inListsBefore elements "points" ++ inList elements "points" := by
    simp [inListsBefore, listNames]
  have hbeforeArcs : inListsBefore elements "arcs" =
      inListsBefore elements "lines" ++ inList elements "lines" := by
    simp [inListsBefore, listNames]
  have hbeforeConstraints : inListsBefore elements "constraints" =
      inListsBefore elements "arcs" ++ inList elements "arcs" := by
    simp [inListsBefore, listNames]
  have hall : inLists elements =
      inListsBefore elements "constraints" ++ inList elements "constraints" := by
    simp [inLists, inListsBefore, listNames]
  rw [hall]
  rw [hbeforeConstraints] at hconstraints ⊢
  rw [hbeforeArcs] at harcs hconstraints ⊢
  rw [hbeforeLines] at hlines harcs hconstraints ⊢
  refine ⟨_, ((hpoints.bind fun l h => hlines h).bind fun l h => harcs h).bind
    fun l h => hconstraints h, ?_⟩
  rw [hdump]
  simp only [load, bind_assoc]
  rfl

end Documents

end Document

end PlaneSketch
