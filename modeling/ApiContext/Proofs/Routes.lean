import ApiContext.Proofs.CamelCase
import Mathlib.Data.List.Infix

/-! Operation identifiers in one pass. A path is cut only once, at the placeholders whose name has
no slash; what the segments and the second pass over the cased path find is that cut. -/
namespace ApiContext.Naming
open Text

structure IsName (name : List Char) : Prop where
  no_opening : '{' ∉ name
  no_closing : '}' ∉ name
  no_slash : '/' ∉ name

def braced (name : List Char) : List Char := '{' :: name ++ ['}']

/-- No placeholder occurs in the text; slashes and single braces may. -/
def Bare (text : List Char) : Prop := ∀ name, IsName name → ¬ braced name <:+: text

/-- The path is cut from left to right: before each placeholder stands all the text that has
none. -/
inductive Cut : List Char → List Stretch → Prop where
  | last {text} (bare : Bare text) : Cut text [.literal text]
  | next {text name path ss} (bare : Bare text) (isName : IsName name) (tail : Cut path ss) :
      Cut (text ++ braced name ++ path) (.literal text :: .placeholder name :: ss)

/-- The scan of `stretchesFrom` over a whole path, where a slash is in no name. -/
def cutFrom (text : List Char) : (opened : Option (List Char)) → List Char → List Stretch
  | none, [] => [.literal text]
  | some name, [] => [.literal (text ++ '{' :: name)]
  | none, c :: r => if c = '{' then cutFrom text (some []) r else cutFrom (text ++ [c]) none r
  | some name, c :: r =>
    if c = '}' then .literal text :: .placeholder name :: cutFrom [] none r
    else if c = '{' then cutFrom (text ++ '{' :: name) (some []) r
    else if c = '/' then cutFrom (text ++ '{' :: name ++ ['/']) none r
    else cutFrom text (some (name ++ [c])) r

def cut (path : List Char) : List Stretch := cutFrom [] none path

/-- No name is being read at the end of the text. -/
def Settled (text : List Char) : Prop := ∀ name, IsName name → ¬ '{' :: name <:+ text

/-- What the scan knows of the characters it has read. -/
def Scanned (text : List Char) : Option (List Char) → Prop
  | none => Bare text ∧ Settled text
  | some name => Bare text ∧ IsName name

def pending : Option (List Char) → List Char
  | none => []
  | some name => '{' :: name

variable {β : Type} {c : Char} {text text' more name name' path path' : List Char}
variable {opened : Option (List Char)} {ss ss' : List Stretch} {g : Stretch → List β}

/-! ### What the scan returns is a cut -/

theorem isName_nil : IsName [] := ⟨List.not_mem_nil, List.not_mem_nil, List.not_mem_nil⟩

theorem IsName.snoc (h : IsName name) (hopen : c ≠ '{') (hclose : c ≠ '}') (hslash : c ≠ '/') :
    IsName (name ++ [c]) :=
  ⟨by simp [h.no_opening, hopen.symm], by simp [h.no_closing, hclose.symm],
    by simp [h.no_slash, hslash.symm]⟩

theorem IsName.of_append (h : IsName (name ++ more)) : IsName name :=
  ⟨fun hc => h.no_opening (List.mem_append_left more hc),
    fun hc => h.no_closing (List.mem_append_left more hc),
    fun hc => h.no_slash (List.mem_append_left more hc)⟩

theorem bare_nil : Bare [] := fun name _ h => by simpa [braced] using List.infix_nil.mp h

theorem settled_nil : Settled [] := fun name _ h => by simpa using List.suffix_nil.mp h

/-- One more character completes a placeholder only if it closes a name. -/
theorem Bare.snoc (h : Bare text) (hc : c = '}' → Settled text) : Bare (text ++ [c]) := by
  intro name hname hocc
  obtain hend | hocc := List.infix_concat_iff.mp hocc
  · obtain hnil | ⟨t, ht, hsuf⟩ := List.suffix_concat_iff.mp hend
    · simp [braced] at hnil
    · obtain ⟨rfl, hclose⟩ := List.append_inj' ht rfl
      exact hc (List.singleton_inj.mp hclose).symm name hname hsuf
  · exact h name hname hocc

theorem Bare.append (h : Bare text) (hmore : '}' ∉ more) : Bare (text ++ more) := by
  induction more using List.reverseRecOn with
  | nil => simpa using h
  | append_singleton more c ih =>
    simp only [List.mem_append, List.mem_singleton, not_or] at hmore
    rw [← List.append_assoc]
    exact (ih hmore.1).snoc fun hc => absurd hc.symm hmore.2

theorem Bare.append_name (h : Bare text) (hname : IsName name) : Bare (text ++ '{' :: name) :=
  h.append (by simp [hname.no_closing])

/-- The name read with one more character is the name read before it, with that character. -/
theorem exists_of_suffix_snoc (h : '{' :: name <:+ text ++ [c]) (hc : c ≠ '{') :
    ∃ t, name = t ++ [c] ∧ '{' :: t <:+ text := by
  obtain hnil | ⟨t, ht, hsuf⟩ := List.suffix_concat_iff.mp h
  · cases hnil
  · cases t with
    | nil => exact absurd (List.cons.inj ht).1.symm hc
    | cons d t =>
      obtain ⟨rfl, hname⟩ := List.cons.inj ht
      exact ⟨t, hname, hsuf⟩

theorem Settled.snoc (h : Settled text) (hc : c ≠ '{') : Settled (text ++ [c]) := by
  intro name hname hsuf
  obtain ⟨t, rfl, ht⟩ := exists_of_suffix_snoc hsuf hc
  exact h t hname.of_append ht

theorem settled_slash (text : List Char) : Settled (text ++ ['/']) := by
  intro name hname hsuf
  obtain ⟨t, rfl, -⟩ := exists_of_suffix_snoc hsuf (by decide)
  exact hname.no_slash (by simp)

/-- Each step keeps what the scan knows, so what it returns is a cut. -/
theorem cut_cutFrom (h : Scanned text opened) :
    Cut (text ++ pending opened ++ path) (cutFrom text opened path) := by
  fun_induction cutFrom text opened path with
  | case1 text => simpa [pending] using Cut.last h.1
  | case2 text name => simpa [pending] using Cut.last (h.1.append_name h.2)
  | case3 text r ih => simpa [pending] using ih ⟨h.1, isName_nil⟩
  | case4 text c r hc ih => simpa [pending] using ih ⟨h.1.snoc fun _ => h.2, h.2.snoc hc⟩
  | case5 text name r ih =>
    simpa [pending, braced] using Cut.next h.1 h.2 (ih ⟨bare_nil, settled_nil⟩)
  | case6 text name r _ ih => simpa [pending] using ih ⟨h.1.append_name h.2, isName_nil⟩
  | case7 text name r _ _ ih =>
    have hbare : Bare (text ++ '{' :: name ++ ['/']) := (h.1.append_name h.2).append (by simp)
    simpa [pending] using ih ⟨hbare, settled_slash _⟩
  | case8 text name c r hclose hopen hslash ih =>
    simpa [pending] using ih ⟨h.1, h.2.snoc hopen hclose hslash⟩

theorem cut_cut (path : List Char) : Cut path (cut path) := by
  have h : Scanned [] none := ⟨bare_nil, settled_nil⟩
  simpa only [cut, pending, List.nil_append] using cut_cutFrom h

/-! ### There is only one cut -/

/-- Bare text does not end inside a placeholder. -/
theorem eq_nil_of_bare (h : Bare (text ++ more)) (hname : IsName name)
    (heq : braced name ++ path = more ++ (braced name' ++ path')) : more = [] := by
  cases more with
  | nil => rfl
  | cons d more =>
    simp only [braced, List.cons_append, List.append_assoc, List.cons.injEq] at heq
    obtain ⟨rfl, heq⟩ := heq
    obtain ⟨as, rfl, has⟩ | ⟨bs, rfl, hbs⟩ := List.append_eq_append_iff.mp heq
    · cases as with
      | nil => simp at has
      | cons e as =>
        obtain ⟨rfl, -⟩ := List.cons.inj has
        exact absurd ⟨text, as, by simp [braced]⟩ (h name hname)
    · cases bs with
      | nil => simp at hbs
      | cons e bs =>
        obtain ⟨rfl, -⟩ := List.cons.inj hbs
        exact absurd (by simp) hname.no_opening

theorem eq_nil_of_closed (h : '}' ∉ name ++ more) (heq : '}' :: path = more ++ '}' :: path') :
    more = [] := by
  cases more with
  | nil => rfl
  | cons d more =>
    obtain ⟨rfl, -⟩ := List.cons.inj heq
    exact absurd (by simp) h

theorem braced_append_inj (hname : IsName name) (hname' : IsName name')
    (h : braced name ++ path = braced name' ++ path') : name = name' ∧ path = path' := by
  simp only [braced, List.cons_append, List.append_assoc, List.cons.injEq, true_and,
    List.nil_append] at h
  obtain ⟨as, rfl, has⟩ | ⟨bs, rfl, hbs⟩ := List.append_eq_append_iff.mp h
  · obtain rfl := eq_nil_of_closed hname'.no_closing has
    simpa using has
  · obtain rfl := eq_nil_of_closed hname.no_closing hbs
    simpa using hbs.symm

theorem bare_append_inj (hbare : Bare text) (hbare' : Bare text') (hname : IsName name)
    (hname' : IsName name') (h : text ++ braced name ++ path = text' ++ braced name' ++ path') :
    text = text' ∧ name = name' ∧ path = path' := by
  rw [List.append_assoc, List.append_assoc] at h
  obtain ⟨as, rfl, has⟩ | ⟨bs, rfl, hbs⟩ := List.append_eq_append_iff.mp h
  · obtain rfl := eq_nil_of_bare hbare' hname has
    exact ⟨by simp, braced_append_inj hname hname' has⟩
  · obtain rfl := eq_nil_of_bare hbare hname' hbs
    exact ⟨by simp, braced_append_inj hname hname' hbs.symm⟩

theorem Cut.unique (h : Cut path ss) (h' : Cut path ss') : ss = ss' := by
  induction h generalizing ss' with
  | last bare =>
    cases h' with
    | last => rfl
    | next _ isName _ => exact absurd (List.infix_append _ _ _) (bare _ isName)
  | @next text name path ss bare isName tail ih =>
    generalize hwhole : text ++ braced name ++ path = whole at h'
    cases h' with
    | last bare' =>
      rw [← hwhole] at bare'
      exact absurd (List.infix_append _ _ _) (bare' _ isName)
    | next bare' isName' tail' =>
      obtain ⟨rfl, rfl, rfl⟩ := bare_append_inj bare bare' isName isName' hwhole
      rw [ih tail']

theorem cut_iff (path : List Char) (ss : List Stretch) : Cut path ss ↔ ss = cut path :=
  ⟨fun h => h.unique (cut_cut path), fun h => h ▸ cut_cut path⟩

/-! ### Segments -/

/-- The parts of a literal between slashes are taken one by one. -/
def Splits (g : Stretch → List β) : Prop :=
  ∀ a b, g (.literal (a ++ '/' :: b)) = g (.literal a) ++ g (.literal b)

/-- The stretches of the segments, when the scan of the first has read some characters before. -/
def segmentsFrom (text : List Char) (opened : Option (List Char)) (path : List Char) :
    List Stretch :=
  match splitAt '/' path with
  | [] => []
  | piece :: pieces => stretchesFrom text opened piece ++ pieces.flatMap stretches

theorem splitAt_ne_nil (separator : Char) (text : List Char) : splitAt separator text ≠ [] := by
  cases text with
  | nil => simp [splitAt]
  | cons c r =>
    rw [splitAt]
    split
    · simp
    · split <;> simp

theorem segmentsFrom_start (path : List Char) :
    segmentsFrom [] none path = (splitAt '/' path).flatMap stretches := by
  rw [segmentsFrom]
  split
  · next h => exact absurd h (splitAt_ne_nil '/' path)
  · next h => simp [h, stretches]

theorem segmentsFrom_slash (text : List Char) (opened : Option (List Char)) (path : List Char) :
    segmentsFrom text opened ('/' :: path) =
      stretchesFrom text opened [] ++ segmentsFrom [] none path := by
  rw [segmentsFrom_start]
  rfl

/-- Any other character is read as in a segment. -/
theorem segmentsFrom_none (hc : c ≠ '/') :
    segmentsFrom text none (c :: path) =
      if c = '{' then segmentsFrom text (some []) path
      else segmentsFrom (text ++ [c]) none path := by
  obtain ⟨piece, pieces, hpath⟩ := List.exists_cons_of_ne_nil (splitAt_ne_nil '/' path)
  simp only [segmentsFrom, splitAt, hc, hpath, stretchesFrom, if_false]
  split <;> rfl

theorem segmentsFrom_some (hc : c ≠ '/') :
    segmentsFrom text (some name) (c :: path) =
      if c = '}' then .literal text :: .placeholder name :: segmentsFrom [] none path
      else if c = '{' then segmentsFrom (text ++ '{' :: name) (some []) path
      else segmentsFrom text (some (name ++ [c])) path := by
  obtain ⟨piece, pieces, hpath⟩ := List.exists_cons_of_ne_nil (splitAt_ne_nil '/' path)
  simp only [segmentsFrom, splitAt, hc, hpath, stretchesFrom, if_false]
  split
  · rfl
  · split <;> rfl

/-- The literal before a slash gives its part, and the scan goes on as from the start. -/
theorem flatMap_cutFrom_slash (hg : Splits g) :
    (cutFrom (text ++ '/' :: text') opened path).flatMap g =
      g (.literal text) ++ (cutFrom text' opened path).flatMap g := by
  fun_induction cutFrom text' opened path with
  | case1 text' => simp [cutFrom, hg _ _]
  | case2 text' name => simp [cutFrom, hg _ _]
  | case3 text' r ih => simpa [cutFrom] using ih
  | case4 text' c r hc ih => simpa [cutFrom, hc] using ih
  | case5 text' name r ih => simp [cutFrom, hg _ _]
  | case6 text' name r _ ih => simpa [cutFrom] using ih
  | case7 text' name r _ _ ih => simpa [cutFrom] using ih
  | case8 text' name c r hclose hopen hslash ih => simpa [cutFrom, hclose, hopen, hslash] using ih

/-- The segments give what the cut of the whole path gives. -/
theorem flatMap_segmentsFrom (hg : Splits g) :
    (segmentsFrom text opened path).flatMap g = (cutFrom text opened path).flatMap g := by
  induction path generalizing text opened with
  | nil => cases opened <;> rfl
  | cons c path ih =>
    by_cases hslash : c = '/'
    · subst hslash
      have hrest (t : List Char) : (cutFrom (t ++ ['/']) none path).flatMap g =
          g (.literal t) ++ (cutFrom [] none path).flatMap g := flatMap_cutFrom_slash hg
      rw [segmentsFrom_slash, List.flatMap_append, ih]
      cases opened with
      | none => simp [stretchesFrom, cutFrom, hrest]
      | some name => simp [stretchesFrom, cutFrom, ← hrest (text ++ '{' :: name)]
    · cases opened with
      | none =>
        rw [segmentsFrom_none hslash, cutFrom]
        split <;> exact ih
      | some name =>
        rw [segmentsFrom_some hslash, cutFrom, if_neg hslash]
        split
        · simp [ih]
        · split <;> exact ih

theorem flatMap_segments (hg : Splits g) (path : List Char) :
    ((splitAt '/' path).flatMap fun segment => (stretches segment).flatMap g) =
      (cut path).flatMap g := by
  rw [cut, ← flatMap_segmentsFrom hg, segmentsFrom_start, List.flatMap_assoc]

/-! ### The second pass -/

/-- The names of placeholders. -/
def Stretch.names : Stretch → List (List Char)
  | .literal _ => []
  | .placeholder name => [name]

/-- The stretch that the second pass finds. -/
def Stretch.recased : Stretch → Stretch
  | .literal text => .literal (literalName text)
  | .placeholder name => .placeholder name

theorem splits_cased : Splits Stretch.cased := by
  intro a b
  simp only [Stretch.cased, literalName_eq]
  exact upperCamel_append (by decide +kernel)

theorem casedPath_eq (path : List Char) : casedPath path = (cut path).flatMap Stretch.cased :=
  flatMap_segments splits_cased path

theorem no_opening_literalName (text : List Char) : '{' ∉ literalName text := by
  rw [literalName_eq]
  intro h
  exact absurd (clean_of_mem_upperCamel h) (by decide +kernel)

theorem stretchesFrom_append (h : '{' ∉ text') :
    stretchesFrom text none (text' ++ path) = stretchesFrom (text ++ text') none path := by
  induction text' generalizing text with
  | nil => simp
  | cons c text' ih =>
    obtain ⟨hc, hrest⟩ : '{' ≠ c ∧ '{' ∉ text' := by simpa using h
    simp [stretchesFrom, hc.symm, ih hrest]

theorem stretchesFrom_name (hopen : '{' ∉ name') (hclose : '}' ∉ name') :
    stretchesFrom text (some name) (name' ++ '}' :: path) =
      .literal text :: .placeholder (name ++ name') :: stretches path := by
  induction name' generalizing name with
  | nil => simp [stretchesFrom, stretches]
  | cons c name' ih =>
    simp only [List.mem_cons, not_or] at hopen hclose
    simp [stretchesFrom, Ne.symm hopen.1, Ne.symm hclose.1, ih hopen.2 hclose.2]

/-- The second pass finds the placeholders of the cut, and no other. -/
theorem Cut.stretches_cased (h : Cut path ss) :
    stretches (ss.flatMap Stretch.cased) = ss.map Stretch.recased := by
  induction h with
  | @last text _ =>
    have hscan : stretchesFrom [] none (literalName text ++ []) = [.literal (literalName text)] :=
      stretchesFrom_append (no_opening_literalName text)
    simpa [stretches, Stretch.cased, Stretch.recased] using hscan
  | @next text name path ss _ isName _ ih =>
    calc
      stretches (literalName text ++ ('{' :: name ++ ['}'] ++ ss.flatMap Stretch.cased))
      _ = stretchesFrom (literalName text) (some []) (name ++ '}' :: ss.flatMap Stretch.cased) := by
        rw [stretches, stretchesFrom_append (no_opening_literalName text)]
        simp [stretchesFrom]
      _ = .literal (literalName text) :: .placeholder name ::
          stretches (ss.flatMap Stretch.cased) :=
        stretchesFrom_name isName.no_opening isName.no_closing
      _ = .literal (literalName text) :: .placeholder name :: ss.map Stretch.recased := by rw [ih]

/-! ### Operation identifiers -/

/-- What a stretch of the path reads in the identifier. -/
def Stretch.spoken : Stretch → List Char
  | .literal text => if text.any isAlphanumeric then upperCamel text else []
  | .placeholder name =>
    "By".toList ++ (if name.any isAlphanumeric then upperCamel name else "Unnamed".toList) ++
      '_' :: name

theorem named_recased (s : Stretch) : s.recased.named = s.spoken := by
  cases s with
  | literal text =>
    rw [Stretch.recased, Stretch.named, Stretch.spoken, literalName]
    split
    · next h => exact pascal_of_any h
    · rfl
  | placeholder name =>
    rw [Stretch.recased, Stretch.named, Stretch.spoken]
    split
    · next h => rw [pascal_of_any h]; rfl
    · next h => rw [pascal_of_not_any (by simpa using h)]; rfl

theorem names_recased (s : Stretch) : s.recased.names = s.names := by
  cases s <;> rfl

/-- The cut of the path alone decides the identifier; both passes find its placeholders, and its
literals are put in camel case as if there were no segments. -/
theorem operationId_one_pass (method path : String) :
    ∃ ss, (∀ ss', Cut path.toList ss' ↔ ss' = ss) ∧
      operationId method path = .ofList (lowercase method.toList ++ ss.flatMap Stretch.spoken) ∧
      casedPath path.toList = ss.flatMap Stretch.cased ∧
      (stretches (casedPath path.toList)).flatMap Stretch.names = ss.flatMap Stretch.names ∧
      ((splitAt '/' path.toList).flatMap fun segment => (stretches segment).flatMap Stretch.names) =
        ss.flatMap Stretch.names := by
  have hcased := casedPath_eq path.toList
  have hscan : stretches (casedPath path.toList) = (cut path.toList).map Stretch.recased := by
    rw [hcased, (cut_cut path.toList).stretches_cased]
  refine ⟨cut path.toList, cut_iff path.toList, ?_, hcased, ?_, ?_⟩
  · rw [operationId, routeName, hscan, List.flatMap_map]
    simp only [named_recased]
  · rw [hscan, List.flatMap_map]
    simp only [names_recased]
  · exact flatMap_segments (fun _ _ => rfl) path.toList

example : operationId "GET" "/\x7ba/b\x7d/\x7b\x7bc\x7d" = "getABByC_c" := by decide +kernel

end ApiContext.Naming
