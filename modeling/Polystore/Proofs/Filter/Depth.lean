import Polystore.Proofs.Filter.Grammar

/-!
# How deep groups nest

Reading counts the groups around a sub-filter, and compares that depth with the limit where the sub-filter
starts. A group without sub-filters is never counted so: one that stands a level deeper than the limit
allows is read.

Main statements: `bounds_nesting_iff` says which filters are too deep and where the limit is exact, and
`not_bounds_nesting_of_childless` shows a filter that nests deeper than its limit and is read.
-/

namespace Polystore.Filter

variable {bound : Int} {limit depth level : Nat} {es : List (Value × Value)} {xs ys : List Value}
  {k v x : Value} {children : List (List Node)} {ns : List Node}

/-! ### Groups and their levels -/

/-- Among the entries of a filter stands a group with these sub-filters. -/
def HoldsGroup (es : List (Value × Value)) (xs : List Value) : Prop :=
  ∃ e ∈ es, (∃ c : Connective, e.1.text? = some c.symbol) ∧ e.2.sequence? = some xs

/-- A group with these sub-filters stands in a filter at a level; the outermost groups are at level one. -/
inductive GroupAt : Nat → List Value → Value → Prop where
  | here {es : List (Value × Value)} {xs : List Value} (hgroup : HoldsGroup es xs) :
      GroupAt 1 xs (.map es)
  | inside {level : Nat} {es : List (Value × Value)} {xs ys : List Value} {x : Value}
      (hgroup : HoldsGroup es ys) (hx : x ∈ ys) (h : GroupAt level xs x) :
      GroupAt (level + 1) xs (.map es)

/-- Groups nest deeper than a limit; a group without sub-filters counts as well. -/
def NestsBeyond (limit : Nat) (filter : Value) : Prop :=
  ∃ level xs, limit < level ∧ GroupAt level xs filter

/-- A group with these children stands among nodes at a level. -/
inductive GroupIn : Nat → List (List Node) → List Node → Prop where
  | here {c : Connective} {children : List (List Node)} {ns : List Node}
      (hgroup : .group c children ∈ ns) : GroupIn 1 children ns
  | inside {level : Nat} {c : Connective} {children others : List (List Node)} {child ns : List Node}
      (hgroup : .group c others ∈ ns) (hchild : child ∈ others) (h : GroupIn level children child) :
      GroupIn (level + 1) children ns

/-- A filter that is well formed apart from its depth: some limit allows it. -/
def WellFormed (filter : Value) : Prop :=
  filter = .null ∨ ∃ bound, IsFilter bound 0 filter

theorem GroupAt.exists_outer (h : GroupAt level xs v) {outer : Nat} (hpos : 0 < outer)
    (hle : outer < level) : ∃ ys, ys ≠ [] ∧ GroupAt outer ys v := by
  induction h generalizing outer with
  | here => omega
  | @inside level es xs ys x hgroup hx h ih =>
    by_cases houter : outer = 1
    · subst houter
      exact ⟨ys, List.ne_nil_of_mem hx, .here hgroup⟩
    · obtain ⟨zs, hne, hzs⟩ := @ih (outer - 1) (by omega) (by omega)
      have hlevel : outer - 1 + 1 = outer := by omega
      exact ⟨zs, hne, hlevel ▸ .inside hgroup hx hzs⟩

theorem nestsBeyond_iff : NestsBeyond limit v ↔ ∃ xs, GroupAt (limit + 1) xs v := by
  constructor
  · rintro ⟨level, xs, hlevel, h⟩
    by_cases heq : level = limit + 1
    · exact ⟨xs, heq ▸ h⟩
    · obtain ⟨ys, -, hys⟩ := h.exists_outer (Nat.succ_pos limit) (by omega)
      exact ⟨ys, hys⟩
  · rintro ⟨xs, h⟩
    exact ⟨limit + 1, xs, Nat.lt_succ_self limit, h⟩

/-! ### The grammar under a limit -/

theorem IsFilter.exists_entries (h : IsFilter bound depth v) : ∃ es, v = .map es := by
  cases h with
  | intro => exact ⟨_, rfl⟩

theorem IsFilter.isEntry (h : IsFilter bound depth (.map es)) : ∀ e ∈ es, IsEntry bound depth e.1 e.2 := by
  cases h with
  | intro _ hes => exact hes

theorem IsFilter.isFilter_of_holdsGroup (h : IsFilter bound depth (.map es)) (hgroup : HoldsGroup es xs) :
    ∀ x ∈ xs, IsFilter bound (depth + 1) x := by
  obtain ⟨e, he, ⟨c, hkey⟩, hxs⟩ := hgroup
  cases h.isEntry e he with
  | field hkey' hplain =>
    obtain rfl := Option.some.inj (hkey.symm.trans hkey')
    rw [isOperatorKey_symbol] at hplain
    cases hplain
  | group _ hxs' hchildren =>
    obtain rfl := Option.some.inj (hxs.symm.trans hxs')
    exact hchildren

theorem IsFilter.level_le (h : IsFilter bound depth v) (hgroup : GroupAt level xs v) (hne : xs ≠ []) :
    ((depth + level : Nat) : Int) ≤ bound := by
  induction hgroup generalizing depth with
  | here hgroup =>
    obtain ⟨x, hx⟩ := List.exists_mem_of_ne_nil _ hne
    cases h.isFilter_of_holdsGroup hgroup x hx with
    | intro hdepth _ => exact hdepth
  | inside hgroup hx _ ih =>
    have hle := ih (h.isFilter_of_holdsGroup hgroup _ hx) hne
    rwa [Nat.add_right_comm] at hle

theorem sizeOf_lt_of_holdsGroup (h : HoldsGroup es xs) (hx : x ∈ xs) :
    sizeOf x < sizeOf (Value.map es) := by
  obtain ⟨⟨k, v⟩, he, -, hxs⟩ := h
  have hentry := List.sizeOf_lt_of_mem he
  have hitem := List.sizeOf_lt_of_mem hx
  have hlist : sizeOf xs < sizeOf v := by
    cases v <;> simp [Value.sequence?] at hxs <;> subst hxs <;> simp
  simp only [Prod.mk.sizeOf_spec, Value.map.sizeOf_spec] at hentry ⊢
  omega

theorem IsFilter.induction {motive : (depth : Nat) → (v : Value) → IsFilter bound depth v → Prop}
    (step : ∀ depth es (h : IsFilter bound depth (.map es)),
      (∀ xs (hgroup : HoldsGroup es xs) x (hx : x ∈ xs),
        motive (depth + 1) x (h.isFilter_of_holdsGroup hgroup x hx)) → motive depth (.map es) h)
    (depth : Nat) (v : Value) (h : IsFilter bound depth v) : motive depth v h := by
  induction hsize : sizeOf v using Nat.strong_induction_on generalizing depth v with
  | _ size ih =>
    subst hsize
    obtain ⟨es, rfl⟩ := h.exists_entries
    exact step _ _ h fun xs hgroup x hx => ih _ (sizeOf_lt_of_holdsGroup hgroup hx) _ _ _ rfl

theorem IsFilter.within (h : IsFilter bound depth v) (hdepth : depth ≤ limit)
    (hlevels : ∀ level xs, GroupAt level xs v → xs ≠ [] → depth + level ≤ limit) :
    IsFilter limit depth v := by
  induction depth, v, h using IsFilter.induction with
  | step depth es h ih =>
    refine .intro (Int.ofNat_le.2 hdepth) fun e he => ?_
    cases h.isEntry e he with
    | field hkey hplain hv => exact .field hkey hplain hv
    | @group _ _ _ c xs hkey hxs hchildren =>
      have hgroup : HoldsGroup es xs := ⟨e, he, ⟨c, hkey⟩, hxs⟩
      refine .group hkey hxs fun x hx => ih xs hgroup x hx ?_ fun level ys hys hne => ?_
      · exact hlevels 1 xs (.here hgroup) (List.ne_nil_of_mem hx)
      · have hle := hlevels (level + 1) ys (.inside hgroup hx hys) hne
        omega

/-! ### Reading under a limit -/

/-- The error of a filter whose groups nest too deep. -/
def tooDeep (limit : Nat) : Error :=
  .tooDeep ((limit + 1 : Nat) : Int) limit

theorem readChildren_fails_of {P : Error → Prop} {limit : Int}
    (h : ∀ x ∈ xs, FailsOnly P (readAt limit (depth + 1) x)) :
    FailsOnly P (readChildren limit depth xs) := by
  induction xs with
  | nil =>
    rw [readChildren]
    exact .ok _
  | cons x xs ih =>
    obtain ⟨hx, hxs⟩ := List.forall_mem_cons.1 h
    rw [readChildren]
    exact hx.bind fun child _ => (ih hxs).bind fun rest _ => .ok _

theorem readEntries_fails_of {P : Error → Prop} {limit : Int}
    (h : ∀ e ∈ es, FailsOnly P (readEntry limit depth e.1 e.2)) :
    FailsOnly P (readEntries limit depth es) := by
  induction es with
  | nil =>
    rw [readEntries]
    exact .ok _
  | cons e es ih =>
    obtain ⟨he, hes⟩ := List.forall_mem_cons.1 h
    rw [readEntries_cons]
    exact he.bind fun ns _ => (ih hes).bind fun rest _ => .ok _

theorem IsEntry.readEntry_fails {P : Error → Prop} {limit : Int} (h : IsEntry bound depth k v)
    (hchildren : ∀ xs, (∃ c : Connective, k.text? = some c.symbol) → v.sequence? = some xs →
      ∀ x ∈ xs, FailsOnly P (readAt limit (depth + 1) x)) :
    FailsOnly P (readEntry limit depth k v) := by
  obtain ⟨name, hname⟩ := h.exists_name
  have htext := Name.text?_of_ofValue? hname
  cases h with
  | field hkey hplain hv =>
    obtain rfl := Option.some.inj (htext.symm.trans hkey)
    have hread : readField name v = .ok _ := readField_eq_ok_iff.2 ⟨hv, rfl⟩
    simp only [readEntry, hname, hplain, Bool.false_eq_true, if_false, hread]
    exact .ok _
  | @group _ _ _ c xs hkey hxs _ =>
    have hsymbol : name.text = c.symbol := Option.some.inj (htext.symm.trans hkey)
    have hconnective : Connective.ofSymbol? name.text = some c := ofSymbol?_eq_some.2 hsymbol
    have hoperator : isOperatorKey name.text = true := hsymbol ▸ isOperatorKey_symbol c
    simp only [readEntry, hname, hoperator, if_true, hconnective, readGroup_of_sequence hxs]
    exact .map _ (readChildren_fails_of (hchildren xs ⟨c, hkey⟩ hxs))

/-- A filter of the grammar is refused for nothing but its depth, one level beyond the limit. -/
theorem IsFilter.readAt_fails (h : IsFilter bound depth v) (hdepth : depth ≤ limit + 1) :
    FailsOnly (· = tooDeep limit) (readAt limit depth v) := by
  induction depth, v, h using IsFilter.induction with
  | step depth es h ih =>
    rw [readAt]
    by_cases hwithin : depth ≤ limit
    · have hcheck : checkDepth depth limit = .ok () := checkDepth_eq_ok.2 (Int.ofNat_le.2 hwithin)
      rw [hcheck]
      refine readEntries_fails_of fun e he => ?_
      refine (h.isEntry e he).readEntry_fails fun xs hkey hxs x hx => ?_
      exact ih xs ⟨e, he, hkey, hxs⟩ x hx (by omega)
    · obtain rfl : depth = limit + 1 := by omega
      have hcheck : checkDepth (limit + 1) limit = .error (tooDeep limit) :=
        if_pos (Int.ofNat_lt.2 (Nat.lt_succ_self limit))
      rw [hcheck]
      exact .error rfl

theorem readWithin_of_wellFormed (h : WellFormed v) (limit : Nat) :
    readWithin limit v = .ok (nodesOf v) ∨ readWithin limit v = .error (tooDeep limit) := by
  cases hread : readWithin limit v with
  | ok ns =>
    obtain ⟨-, rfl⟩ := readWithin_eq_ok_iff.1 hread
    exact .inl rfl
  | error e =>
    refine .inr (congrArg _ ?_)
    rcases h with rfl | ⟨bound, h⟩
    · cases hread
    · obtain ⟨es, rfl⟩ := h.exists_entries
      exact h.readAt_fails (Nat.zero_le _) e hread

theorem readWithin_tooDeep_iff (h : WellFormed v) :
    readWithin limit v = .error (tooDeep limit) ↔ ∃ xs, xs ≠ [] ∧ GroupAt (limit + 1) xs v := by
  constructor
  · intro hread
    rcases h with rfl | ⟨bound, h⟩
    · cases hread
    · by_contra hnone
      have hwithin : IsFilter limit 0 v := by
        refine h.within (Nat.zero_le _) fun level xs hgroup hne => ?_
        by_contra hlevel
        by_cases heq : level = limit + 1
        · exact hnone ⟨xs, hne, heq ▸ hgroup⟩
        · exact hnone (hgroup.exists_outer (Nat.succ_pos limit) (by omega))
      cases hread.symm.trans (readWithin_eq_ok_iff.2 ⟨.inr hwithin, rfl⟩)
  · rintro ⟨xs, hne, hgroup⟩
    refine (readWithin_of_wellFormed h limit).resolve_left fun hread => ?_
    rcases (readWithin_eq_ok_iff.1 hread).1 with rfl | hfilter
    · cases hgroup
    · have hlevel := hfilter.level_le hgroup hne
      omega

/-! ### Groups among the nodes -/

theorem nodesOfChildren_eq_map (xs : List Value) : nodesOfChildren xs = xs.map nodesOf := by
  induction xs with
  | nil => rw [nodesOfChildren, List.map_nil]
  | cons x xs ih => rw [nodesOfChildren, ih, List.map_cons]

theorem group_mem_entryNodes_iff {name : Name} {c : Connective} {others : List (List Node)} :
    .group c children ∈ entryNodes name v others ↔ name.text = c.symbol ∧ others = children := by
  unfold entryNodes
  cases hsymbol : Connective.ofSymbol? name.text with
  | none =>
    have hne : name.text ≠ c.symbol := fun heq => by
      rw [ofSymbol?_eq_some.2 heq] at hsymbol
      cases hsymbol
    simp [hne]
  | some c' =>
    rw [← ofSymbol?_eq_some, hsymbol]
    simp [eq_comm]

theorem group_mem_nodesOfEntries_iff {c : Connective} :
    .group c children ∈ nodesOfEntries es ↔
      ∃ e ∈ es, e.1.text? = some c.symbol ∧ childrenOf e.2 = children := by
  induction es with
  | nil => simp [nodesOfEntries]
  | cons e es ih =>
    obtain ⟨k, v⟩ := e
    rw [nodesOfEntries, List.mem_append, ih, List.exists_mem_cons_iff]
    refine or_congr_left ?_
    have htext := Name.map_text_ofValue? k
    cases hname : Name.ofValue? k with
    | none =>
      rw [hname] at htext
      simp [← htext]
    | some name =>
      rw [hname] at htext
      rw [group_mem_entryNodes_iff, ← htext]
      simp

theorem IsFilter.exists_group_mem_iff (h : IsFilter bound depth (.map es)) :
    (∃ c, .group c children ∈ nodesOf (.map es)) ↔
      ∃ xs, HoldsGroup es xs ∧ xs.map nodesOf = children := by
  simp only [nodesOf, group_mem_nodesOfEntries_iff]
  constructor
  · rintro ⟨c, e, he, hkey, rfl⟩
    cases h.isEntry e he with
    | field hkey' hplain =>
      obtain rfl := Option.some.inj (hkey.symm.trans hkey')
      rw [isOperatorKey_symbol] at hplain
      cases hplain
    | @group _ _ _ _ xs _ hxs =>
      exact ⟨xs, ⟨e, he, ⟨c, hkey⟩, hxs⟩, by rw [childrenOf_of_sequence hxs, nodesOfChildren_eq_map]⟩
  · rintro ⟨xs, ⟨e, he, ⟨c, hkey⟩, hxs⟩, rfl⟩
    exact ⟨c, e, he, hkey, by rw [childrenOf_of_sequence hxs, nodesOfChildren_eq_map]⟩

theorem IsFilter.groupIn_nodesOf_iff (h : IsFilter bound depth v) :
    GroupIn level children (nodesOf v) ↔ ∃ xs, GroupAt level xs v ∧ xs.map nodesOf = children := by
  induction depth, v, h using IsFilter.induction generalizing level children with
  | step depth es h ih =>
    constructor
    · intro hin
      cases hin with
      | here hgroup =>
        obtain ⟨xs, hxs, rfl⟩ := h.exists_group_mem_iff.1 ⟨_, hgroup⟩
        exact ⟨xs, .here hxs, rfl⟩
      | inside hgroup hchild hin =>
        obtain ⟨ys, hys, rfl⟩ := h.exists_group_mem_iff.1 ⟨_, hgroup⟩
        obtain ⟨x, hx, rfl⟩ := List.mem_map.1 hchild
        obtain ⟨xs, hxs, rfl⟩ := (ih ys hys x hx).1 hin
        exact ⟨xs, .inside hys hx hxs, rfl⟩
    · rintro ⟨xs, hat, rfl⟩
      cases hat with
      | here hgroup =>
        obtain ⟨c, hmem⟩ := h.exists_group_mem_iff.2 ⟨xs, hgroup, rfl⟩
        exact .here hmem
      | @inside _ _ _ ys x hgroup hx hat =>
        obtain ⟨c, hmem⟩ := h.exists_group_mem_iff.2 ⟨ys, hgroup, rfl⟩
        exact .inside hmem (List.mem_map_of_mem hx) ((ih ys hgroup x hx).2 ⟨xs, hat, rfl⟩)

theorem WellFormed.groupIn_nodesOf_iff (h : WellFormed v) :
    GroupIn level children (nodesOf v) ↔ ∃ xs, GroupAt level xs v ∧ xs.map nodesOf = children := by
  rcases h with rfl | ⟨bound, h⟩
  · have hnodes : nodesOf .null = [] := by
      rw [nodesOf]
      exact fun _ => Value.noConfusion
    rw [hnodes]
    constructor
    · rintro (⟨⟨⟩⟩ | ⟨⟨⟩⟩)
    · rintro ⟨xs, ⟨⟩, -⟩
  · exact h.groupIn_nodesOf_iff

/-! ### The limit -/

/-- A filter that is well formed apart from its depth is read or too deep. It is too deep exactly if a
group with sub-filters stands one level beyond the limit; so the limit is exact unless there are groups
beyond it and all those of the first level beyond it are without sub-filters. What is read holds such
groups at most: all others keep the limit. -/
theorem bounds_nesting_iff (h : WellFormed v) (limit : Nat) :
    (readWithin limit v = .ok (nodesOf v) ∨ readWithin limit v = .error (tooDeep limit)) ∧
    (readWithin limit v = .error (tooDeep limit) ↔ ∃ xs, xs ≠ [] ∧ GroupAt (limit + 1) xs v) ∧
    ((readWithin limit v = .error (tooDeep limit) ↔ NestsBeyond limit v) ↔
      ¬(NestsBeyond limit v ∧ ∀ xs, GroupAt (limit + 1) xs v → xs = [])) ∧
    ∀ ns, readWithin limit v = .ok ns →
      (∀ level children, GroupIn level children ns →
        level ≤ limit ∨ level = limit + 1 ∧ children = []) ∧
      ((∃ children, GroupIn (limit + 1) children ns) ↔ NestsBeyond limit v) := by
  have hdeep : readWithin limit v = .error (tooDeep limit) ↔ _ := readWithin_tooDeep_iff h
  refine ⟨readWithin_of_wellFormed h limit, hdeep, ?_, fun ns hread => ?_⟩
  · rw [hdeep]
    constructor
    · rintro hexact ⟨hbeyond, hchildless⟩
      obtain ⟨xs, hne, hxs⟩ := hexact.2 hbeyond
      exact hne (hchildless xs hxs)
    · intro hexact
      refine ⟨fun ⟨xs, _, hxs⟩ => nestsBeyond_iff.2 ⟨xs, hxs⟩, fun hbeyond => ?_⟩
      by_contra hnone
      exact hexact ⟨hbeyond, fun xs hxs => by_contra fun hne => hnone ⟨xs, hne, hxs⟩⟩
  · obtain ⟨-, rfl⟩ := readWithin_eq_ok_iff.1 hread
    have hkept : ∀ xs, GroupAt (limit + 1) xs v → xs = [] := by
      intro xs hxs
      by_contra hne
      cases hread.symm.trans (hdeep.2 ⟨xs, hne, hxs⟩)
    refine ⟨fun level children hin => ?_, ?_⟩
    · obtain ⟨xs, hxs, rfl⟩ := h.groupIn_nodesOf_iff.1 hin
      rcases Nat.lt_trichotomy level (limit + 1) with hlt | rfl | hgt
      · exact .inl (Nat.le_of_lt_succ hlt)
      · exact .inr ⟨rfl, by rw [hkept xs hxs, List.map_nil]⟩
      · obtain ⟨ys, hne, hys⟩ := hxs.exists_outer (Nat.succ_pos limit) hgt
        exact absurd (hkept ys hys) hne
    · rw [nestsBeyond_iff]
      simp only [h.groupIn_nodesOf_iff]
      exact ⟨fun ⟨_, xs, hxs, _⟩ => ⟨xs, hxs⟩, fun ⟨xs, hxs⟩ => ⟨_, xs, hxs, rfl⟩⟩

/-- A group without sub-filters inside a group. -/
def childlessInGroup : Value :=
  .map [(.str "$and", .list [.map [(.str "$or", .list [])]])]

theorem holdsGroup_singleton (c : Connective) (xs : List Value) :
    HoldsGroup [(.str c.symbol, .list xs)] xs :=
  ⟨_, List.mem_singleton_self _, ⟨c, rfl⟩, rfl⟩

theorem wellFormed_childlessInGroup : WellFormed childlessInGroup := by
  have hinner : IsFilter 1 1 (.map [(.str "$or", .list [])]) :=
    .intro (by decide) (List.forall_mem_singleton.2
      (.group (c := .or) rfl rfl (List.forall_mem_nil _)))
  exact .inr ⟨1, .intro (by decide) (List.forall_mem_singleton.2
    (.group (c := .and) rfl rfl (List.forall_mem_singleton.2 hinner)))⟩

theorem groupAt_childlessInGroup : GroupAt 2 [] childlessInGroup :=
  .inside (holdsGroup_singleton .and _) (List.mem_singleton_self _) (.here (holdsGroup_singleton .or []))

/-- Its groups nest two deep. Under a limit of one it is read, and under a limit of zero too deep. -/
theorem bounds_nesting_iff_of_childless :
    WellFormed childlessInGroup ∧ NestsBeyond 1 childlessInGroup ∧
    readWithin 1 childlessInGroup = .ok [.group .and [[.group .or []]]] ∧
    (∃ children, GroupIn 2 children [.group .and [[.group .or []]]]) ∧
    readWithin 0 childlessInGroup = .error (tooDeep 0) ∧
    ∃ xs, xs ≠ [] ∧ GroupAt 1 xs childlessInGroup := by
  have hbeyond : NestsBeyond 1 childlessInGroup := ⟨2, [], Nat.one_lt_two, groupAt_childlessInGroup⟩
  have hread : readWithin 1 childlessInGroup = .ok [.group .and [[.group .or []]]] := rfl
  have hrefused : readWithin 0 childlessInGroup = .error (tooDeep 0) := rfl
  obtain ⟨-, -, -, hnodes⟩ := bounds_nesting_iff wellFormed_childlessInGroup 1
  obtain ⟨-, hdeep, -, -⟩ := bounds_nesting_iff wellFormed_childlessInGroup 0
  exact ⟨wellFormed_childlessInGroup, hbeyond, hread, (hnodes _ hread).2.2 hbeyond, hrefused,
    hdeep.1 hrefused⟩

/-- A limit does not bound the nesting: a group without sub-filters is read one level beyond it. -/
theorem not_bounds_nesting_of_childless :
    (¬∀ (limit : Nat) v, WellFormed v →
      ((∃ e, readWithin limit v = .error e ∧ e.kind? = some .tooDeep) ↔ NestsBeyond limit v)) ∧
    ¬∀ (limit : Nat) v ns, readWithin limit v = .ok ns →
      ∀ level children, GroupIn level children ns → level ≤ limit := by
  have hwell : WellFormed (.map [(.str "$or", .list [])]) :=
    .inr ⟨0, .intro (by decide) (List.forall_mem_singleton.2
      (.group (c := .or) rfl rfl (List.forall_mem_nil _)))⟩
  have hread : readWithin (0 : Nat) (.map [(.str "$or", .list [])]) = .ok [.group .or []] := rfl
  constructor
  · intro h
    have hbeyond : NestsBeyond 0 (.map [(.str "$or", .list [])]) :=
      ⟨1, [], Nat.one_pos, .here (holdsGroup_singleton .or [])⟩
    obtain ⟨e, he, -⟩ := (h 0 _ hwell).2 hbeyond
    cases hread.symm.trans he
  · intro h
    exact absurd (h 0 _ _ hread 1 [] (.here (List.mem_singleton_self _))) (by decide)

end Polystore.Filter
