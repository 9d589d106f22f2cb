import PageHarvest.Proofs.Expression.Completeness
import PageHarvest.Proofs.Expression.Lexemes

/-!
# Paths as expressions

Names with points between them are the path of a reference, and they are an expression as well: a
name, and the access to one property after the other. The path is cut at its points and followed
until a step fails; the expression is split into tokens and read by the grammar, and the access to a
property of null or of a missing value is an error. Both find the same values.

* `tokenize_dotted`, `read_dotted`: the expression that the path is;
* `segments_dotted`: the segments of the path;
* `agrees_properties`: one access after the other against one step down after the other;
* `evaluate_dotted`: what follows for all paths that fit an expression.
-/

namespace PageHarvest.Expr

open Text

/-- What a text comes to as an expression. -/
def evaluate (context : Context) (source : String) : Except Problem (Option Json) :=
  (read source).bind (eval context)

/-- The names with points between them. -/
def dotted (names : List String) : String := ".".intercalate names

/-- The access to properties, one after the other. -/
def members (e : Expr) (names : List String) : Expr := names.foldl .member e

variable {context : Context} {name : String} {names : List String} {c : Char} {rest : List Char}

theorem toList_dotted (name : String) (names : List String) :
    (dotted (name :: names)).toList = name.toList ++ names.flatMap fun n => '.' :: n.toList := by
  rw [dotted, String.toList_intercalate]
  induction names generalizing name with
  | nil => simp
  | cons n names ih =>
    rw [List.map_cons, List.map_cons, List.intercalate_cons_cons, ← List.map_cons, ih,
      List.flatMap_cons, List.append_assoc]
    rfl

/-! ## Tokens -/

/-- A point ends a name. -/
theorem stops_point (names : List String) :
    ∀ d ∈ (names.flatMap fun n => '.' :: n.toList).head?, isNamePart d = false ∧ d ≠ '\x7b' := by
  cases names with
  | nil => exact nofun
  | cons n names =>
    rintro _ ⟨⟩
    exact ⟨rfl, by decide⟩

theorem lexAll_name (form : IsName name.toList) (total fuel : Nat)
    (stops : ∀ d ∈ rest.head?, isNamePart d = false ∧ d ≠ '\x7b') :
    lexAll total (fuel + 1) (name.toList ++ rest) =
      (lexAll total fuel rest).map (.ident name :: ·) := by
  obtain ⟨c, cs, shape, start⟩ := form.exists_cons
  rw [shape, List.cons_append, lexAll,
    if_neg (Bool.eq_false_iff.1 (not_blank_of_isNameStart start)),
    lexToken_name form shape start _ stops]

/-- A point in front of a name is no part of a number. -/
theorem lexAll_point (form : IsName name.toList) (total fuel : Nat) :
    lexAll total (fuel + 1) ('.' :: (name.toList ++ rest)) =
      (lexAll total fuel (name.toList ++ rest)).map (.dot :: ·) := by
  obtain ⟨c, cs, shape, start⟩ := form.exists_cons
  have token (position : Nat) : lexToken position '.' (name.toList ++ rest) =
      .ok (.dot, name.toList ++ rest) := by
    have noNumber : ¬ startsNumber '.' (name.toList ++ rest) = true := by
      rw [shape, List.cons_append, startsNumber, List.head?_cons, Option.any_some,
        isAsciiDigit_of_isNameStart start]
      decide
    rw [lexToken, if_neg fun h => absurd h.1 (by decide), if_neg fun h => absurd h.1 (by decide),
      if_neg (by decide), if_neg noNumber, if_neg (by decide)]
    rfl
  rw [lexAll, if_neg (by decide), token]

/-- Each name takes a step, and so does each point in front of one. -/
theorem lexAll_dotted (form : IsName name.toList) (forms : ∀ n ∈ names, IsName n.toList)
    (total : Nat) {fuel : Nat} (enough : 2 * names.length < fuel) :
    lexAll total fuel (name.toList ++ names.flatMap fun n => '.' :: n.toList) =
      .ok (.ident name :: names.flatMap fun n => [.dot, .ident n]) := by
  induction names generalizing name fuel with
  | nil =>
    obtain ⟨fuel, rfl⟩ : ∃ k, fuel = k + 1 := Nat.exists_eq_add_of_le' (by omega)
    rw [lexAll_name form total fuel (stops_point [])]
    cases fuel <;> rfl
  | cons n names ih =>
    obtain ⟨next, forms⟩ := List.forall_mem_cons.1 forms
    rw [List.length_cons] at enough
    obtain ⟨fuel, rfl⟩ : ∃ k, fuel = k + 2 := Nat.exists_eq_add_of_le' (by omega)
    rw [lexAll_name form total _ (stops_point (n :: names)), List.flatMap_cons, List.cons_append,
      lexAll_point next, ih next forms (by omega)]
    rfl

theorem tokenize_dotted (form : IsName name.toList) (forms : ∀ n ∈ names, IsName n.toList) :
    tokenize (dotted (name :: names)) =
      .ok (.ident name :: names.flatMap fun n => [.dot, .ident n]) := by
  rw [tokenize, toList_dotted]
  refine lexAll_dotted form forms _ ?_
  have first : 0 < name.toList.length := by
    obtain ⟨c, cs, shape, -⟩ := form.exists_cons
    rw [shape]
    exact Nat.succ_pos _
  have others : 2 * names.length ≤ (names.flatMap fun n => '.' :: n.toList).length := by
    clear first
    induction names with
    | nil => exact Nat.le_refl _
    | cons n names ih =>
      obtain ⟨next, forms⟩ := List.forall_mem_cons.1 forms
      obtain ⟨c, cs, shape, -⟩ := next.exists_cons
      have rest := ih forms
      simp only [List.flatMap_cons, List.length_append, List.length_cons, shape]
      omega
  rw [List.length_append]
  omega

/-! ## Accesses -/

theorem nodes_members (e : Expr) (names : List String) :
    (members e names).nodes = e.nodes + names.length := by
  induction names generalizing e with
  | nil => rfl
  | cons n names ih =>
    rw [members, List.foldl_cons, ← members, ih, List.length_cons, Expr.nodes]
    omega

/-- Accesses open nothing, and there is one node for each. -/
theorem derives_members {ts : List Token} {e : Expr} (front : Derives .accessed ts e)
    (names : List String) :
    Derives .accessed (ts ++ names.flatMap fun n => [.dot, .ident n]) (members e names) ∧
      nesting (ts ++ names.flatMap fun n => [.dot, .ident n]) = nesting ts := by
  induction names generalizing ts e with
  | nil =>
    rw [List.flatMap_nil, List.append_nil]
    exact ⟨front, rfl⟩
  | cons n names ih =>
    rw [List.flatMap_cons, ← List.append_assoc]
    exact (ih (.member front)).imp_right (·.trans (nesting_member n front))

theorem read_dotted (form : IsName name.toList) (forms : ∀ n ∈ names, IsName n.toList)
    (plain : name ∉ constants.map Prod.fst) (few : names.length ≤ maxNodes) :
    read (dotted (name :: names)) = .ok (members (.identifier name) names) := by
  obtain ⟨derived, shallow⟩ := derives_members (.accessedOf (.name plain)) names
  rw [read, tokenize_dotted form forms]
  refine ofTokensWithin_eq_ok_iff.2
    ⟨.orOf (.andOf (.equalityOf (.orderOf (.signedOf derived)))), ?_, ?_⟩
  · exact shallow.trans_le (Nat.zero_le _)
  · rw [nodes_members]
    exact (Nat.zero_add _).trans_le few

/-! ## Steps down -/

/-- An expression comes to the value that a path finds, and to nothing or an error if there is
none. -/
inductive Agrees : Except Problem (Option Json) → Option Json → Prop
  | found (v : Json) : Agrees (.ok (some v)) (some v)
  | missing : Agrees (.ok none) none
  | undefinedName (name : String) : Agrees (.error (.undefinedName name)) none
  | propertyOfNothing (name : String) (isMissing : Bool) :
      Agrees (.error (.propertyOfNothing name isMissing)) none

theorem eval_members (e : Expr) (names : List String) :
    eval context (members e names) = eval context e >>= fun v => names.foldlM property v := by
  induction names generalizing e with
  | nil =>
    rw [members, List.foldl_nil]
    cases eval context e <;> rfl
  | cons n names ih =>
    rw [members, List.foldl_cons, ← members, ih, eval]
    cases eval context e <;> rfl

theorem agrees_properties_none (names : List String) :
    Agrees (names.foldlM property none) none := by
  cases names with
  | nil => exact .missing
  | cons n names => exact .propertyOfNothing n true

theorem agrees_properties (v : Json) (names : List String) :
    Agrees (names.foldlM property (some v)) (Reference.descendAll v names) := by
  induction names generalizing v with
  | nil => exact .found v
  | cons n names ih =>
    have further : Agrees (names.foldlM property (Reference.descend v n))
        (Reference.descendAll v (n :: names)) := by
      rw [Reference.descendAll]
      cases Reference.descend v n with
      | none => exact agrees_properties_none names
      | some w => exact ih w
    cases v with
    | null => exact .propertyOfNothing n false
    | bool | num | str | arr | obj => exact further

/-! ## Segments -/

theorem IsName.not_point {cs : List Char} (form : IsName cs) : ∀ d ∈ cs, (d == '.') = false :=
  fun d hd => beq_eq_false_iff_ne.2 (ne_of_test (form.isNamePart d hd) rfl)

theorem IsName.trimChars_eq {cs : List Char} (form : IsName cs) : trimChars cs = cs :=
  trimChars_eq_iff.2
    ⟨trimmed_of_all fun d hd => not_blank_of_isNamePart (form.isNamePart d hd), .refl _⟩

theorem segments_dotted (form : IsName name.toList) (forms : ∀ n ∈ names, IsName n.toList) :
    Reference.segments (dotted (name :: names)).toList = name :: names := by
  rw [toList_dotted, Reference.segments]
  induction names generalizing name with
  | nil =>
    rw [List.flatMap_nil, List.append_nil, splitChars_of_none form.not_point, List.map_singleton,
      form.trimChars_eq, String.ofList_toList]
  | cons n names ih =>
    obtain ⟨next, forms⟩ := List.forall_mem_cons.1 forms
    rw [List.flatMap_cons, List.cons_append, splitChars_append form.not_point rfl, List.map_cons,
      ih next forms, form.trimChars_eq, String.ofList_toList]

theorem resolvePath_dotted (form : IsName name.toList) (forms : ∀ n ∈ names, IsName n.toList) :
    Reference.resolvePath context (dotted (name :: names)) =
      (context.lookup name).bind fun v => Reference.descendAll v names := by
  have some : name ≠ "" := by
    rintro rfl
    cases form
  rw [Reference.resolvePath, segments_dotted form forms]
  exact if_neg some

/-- The name is looked up in the same place, and then every access against its step. -/
theorem agrees_dotted (form : IsName name.toList) (forms : ∀ n ∈ names, IsName n.toList)
    (plain : name ∉ constants.map Prod.fst) (few : names.length ≤ maxNodes) :
    Agrees (evaluate context (dotted (name :: names)))
      (Reference.resolvePath context (dotted (name :: names))) := by
  rw [evaluate, read_dotted form forms plain few, Except.bind, eval_members,
    resolvePath_dotted form forms, eval]
  cases context.lookup name with
  | none => exact .undefinedName name
  | some v => exact agrees_properties v names

/-! ## References -/

theorem mem_dotted (form : IsName name.toList) (forms : ∀ n ∈ names, IsName n.toList) :
    ∀ d ∈ (dotted (name :: names)).toList, isNamePart d = true ∨ d = '.' := by
  intro d hd
  rw [toList_dotted, List.mem_append, List.mem_flatMap] at hd
  rcases hd with first | ⟨n, hn, later⟩
  · exact .inl (form.isNamePart d first)
  · exact (List.mem_cons.1 later).symm.imp_left ((forms n hn).isNamePart d)

theorem evaluate_braced {path : String} (closed : '\x7d' ∉ path.toList) :
    evaluate context (Reference.braced path) = .ok (Reference.target context path) := by
  have token : tokenize (Reference.braced path) = .ok [.reference (trim path)] := by
    rw [tokenize, Reference.toList_braced]
    exact (lexAll_braced closed _ _ []).trans rfl
  rw [evaluate, read, token]
  rfl

/-- The reference to a path evaluates to what the path finds. -/
theorem evaluate_braced_dotted (form : IsName name.toList)
    (forms : ∀ n ∈ names, IsName n.toList) :
    evaluate context (Reference.braced (dotted (name :: names))) =
      .ok (Reference.resolvePath context (dotted (name :: names))) := by
  have chars := mem_dotted form forms
  have closed : '\x7d' ∉ (dotted (name :: names)).toList := fun inside =>
    (chars _ inside).elim nofun nofun
  have trimmed : trim (dotted (name :: names)) = dotted (name :: names) := by
    rw [trim, trimChars_eq_iff.2 ⟨trimmed_of_all fun d hd => ?_, .refl _⟩, String.ofList_toList]
    rcases chars d hd with part | rfl
    · exact not_blank_of_isNamePart part
    · rfl
  rw [evaluate_braced closed, Reference.target, trimmed]

/-- A path of names, whose first one is no constant and which has no more accesses than an
expression may have, is an expression for the value at the path: it comes to a value if and only if
the path finds this value, and so does the reference to the path. Where the path finds nothing, the
reference is a missing value; the expression is one too, or an error for a name that the context
does not have or for a property of null or of a missing value. -/
theorem evaluate_dotted (context : Context) (names : List String) (nonempty : names ≠ [])
    (few : names.length ≤ 513) (forms : ∀ n ∈ names, IsName n.toList)
    (plain : ∀ n ∈ names.head?, n ∉ ["true", "false", "null", "undefined"]) :
    let path := dotted names
    (∀ v, evaluate context path = .ok (some v) ↔ Reference.resolvePath context path = some v) ∧
    (∀ v, evaluate context (Reference.braced path) = .ok (some v) ↔
      Reference.resolvePath context path = some v) ∧
    (Reference.resolvePath context path = none →
      evaluate context (Reference.braced path) = .ok none ∧
      (evaluate context path = .ok none ∨
        (∃ name, evaluate context path = .error (.undefinedName name)) ∨
        ∃ name isMissing,
          evaluate context path = .error (.propertyOfNothing name isMissing))) := by
  obtain ⟨name, names, rfl⟩ := List.exists_cons_of_ne_nil nonempty
  obtain ⟨form, forms⟩ := List.forall_mem_cons.1 forms
  intro path
  have reference : evaluate context (Reference.braced path) =
      .ok (Reference.resolvePath context path) := evaluate_braced_dotted form forms
  have agrees : Agrees (evaluate context path) (Reference.resolvePath context path) :=
    agrees_dotted form forms (plain name rfl) (Nat.le_of_succ_le_succ few)
  rw [reference]
  generalize evaluate context path = outcome at agrees
  generalize Reference.resolvePath context path = found at agrees
  refine ⟨fun v => ?_, fun v => ?_, ?_⟩
  · cases agrees <;> simp
  · simp
  · rintro rfl
    refine ⟨rfl, ?_⟩
    cases agrees with
    | missing => exact .inl rfl
    | undefinedName n => exact .inr (.inl ⟨n, rfl⟩)
    | propertyOfNothing n isMissing => exact .inr (.inr ⟨n, isMissing, rfl⟩)

/-- The name of a constant as a property and the length of an array, and null in the middle of a
path. -/
theorem evaluate_dotted_constant :
    let context : Context := ⟨[("a", .obj [("true", .arr [.null, .null]), ("n", .null)])], []⟩
    evaluate context (dotted ["a", "true", "length"]) = .ok (some (.num (.int 2))) ∧
      evaluate context (Reference.braced (dotted ["a", "n", "x"])) = .ok none := by
  intro context
  have isName {c : Char} {cs : List Char} (start : isNameStart c = true)
      (parts : cs.all isNamePart = true) : IsName (c :: cs) :=
    .cons start (List.all_eq_true.1 parts)
  have a : IsName "a".toList := isName (by decide +kernel) rfl
  have n : IsName "n".toList := isName (by decide +kernel) rfl
  have x : IsName "x".toList := isName (by decide +kernel) rfl
  have constant : IsName "true".toList := isName (by decide +kernel) (by decide +kernel)
  have length : IsName "length".toList := isName (by decide +kernel) (by decide +kernel)
  constructor
  · refine ((evaluate_dotted context ["a", "true", "length"] nofun (by decide) ?_
      (by rintro _ ⟨⟩; decide)).1 _).2 rfl
    simp only [List.forall_mem_cons]
    exact ⟨a, constant, length, nofun⟩
  · refine ((evaluate_dotted context ["a", "n", "x"] nofun (by decide) ?_
      (by rintro _ ⟨⟩; decide)).2.2 rfl).1
    simp only [List.forall_mem_cons]
    exact ⟨a, n, x, nofun⟩

end PageHarvest.Expr
