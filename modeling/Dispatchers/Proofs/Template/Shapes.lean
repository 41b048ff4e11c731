import Dispatchers.Proofs.Dictionary
import Dispatchers.Proofs.Except
import Dispatchers.Template.Basic

namespace Dispatchers.Template

namespace Value

def field (v : Value) (key : String) : Value :=
  (v.member key).toOption.getD .undefined

def items (v : Value) : List Value :=
  v.elements.toOption.getD []

variable {entries : List (String × Value)} {key : String} {v : Value}

theorem field_record (distinct : (entries.map Prod.fst).Nodup) (listed : (key, v) ∈ entries) :
    (record entries).field key = v := by
  have found : (Dictionary.ofList entries).entries.lookup key = some v :=
    Dictionary.get?_ofList_of_nodup distinct listed
  change (((Dictionary.ofList entries).entries.lookup key).getD .undefined) = v
  rw [found, Option.getD_some]

theorem field_record_of_absent (absent : key ∉ entries.map Prod.fst) :
    (record entries).field key = .undefined := by
  have none : (Dictionary.ofList entries).entries.lookup key = Option.none :=
    Dictionary.get?_ofList_of_absent absent
  change (((Dictionary.ofList entries).entries.lookup key).getD .undefined) = _
  rw [none, Option.getD_none]

end Value

theorem scopesOf_record (entries : List (String × Value)) :
    scopesOf (.record entries) = [Dictionary.ofList entries] :=
  congrArg ([·]) (Dictionary.ofList_entries _)

/-- What a template relies on in a value. -/
inductive Shape where
  | any
  /-- As many elements as a range may have. -/
  | size
  | tuple (length : Nat)
  | list (element : Shape)
  /-- A map with at least these keys. -/
  | record (fields : List (String × Shape))

inductive Fits : Shape → Value → Prop where
  | any (v : Value) : Fits .any v
  | size {n : Nat} (small : n ≤ rangeLimit) : Fits .size (.ofNumber n)
  | tuple (items : List Value) : Fits (.tuple items.length) (.list items)
  | list {s : Shape} {items : List Value} (each : ∀ v ∈ items, Fits s v) :
      Fits (.list s) (.list items)
  | record {fields : List (String × Shape)} {entries : List (String × Value)}
      (found : ∀ name s, fields.lookup name = some s →
        Fits s ((entries.lookup name).getD .undefined)) :
      Fits (.record fields) (.map entries)

/-- The shapes of what names are bound to; nothing binds the other names. -/
abbrev Known := String → Option Shape

namespace Known

def bind (known : Known) (name : String) (s : Shape) : Known := fun other =>
  if other = name then some s else known other

def bindAll (known : Known) (names : List String) : Known := fun other =>
  if names.contains other then some .any else known other

end Known

def Meets (known : Known) (scopes : Scopes) : Prop :=
  ∀ name, (known name).elim (scopes.lookup name = .undefined) fun s => Fits s (scopes.lookup name)

section Functions

def callShape? : String → List Shape → Option Shape
  | "merge", [.record _, .record _] => some (.record [])
  | "range", [.size] => some (.list .any)
  | _, _ => none

def filterShape? : String → List Shape → Option Shape
  | "lower_first", [_] | "upper_first", [_] | "snake_case", [_] | "go_quote", [_] => some .any
  | "items", [.record _] => some (.list (.tuple 2))
  | _, _ => none

end Functions

namespace Expression

mutual

def shape? (known : Known) : Expression → Option Shape
  | value _ => some .any
  | reference name => some ((known name).getD .any)
  | list items => (shapes? known items).map fun shapes => .tuple shapes.length
  | member subject name =>
    match subject.shape? known with
    | some (.record fields) => fields.lookup name
    | _ => none
  | item _ _ => none
  | call function arguments =>
    if (known function).isSome then none
    else (shapes? known arguments).bind (callShape? function)
  | filter subject name arguments =>
    (subject.shape? known).bind fun s =>
      (shapes? known arguments).bind fun more => filterShape? name (s :: more)
  | concat left right | equal left right | and left right | or left right =>
    (left.shape? known).bind fun _ => (right.shape? known).map fun _ => .any
  | not operand => (operand.shape? known).map fun _ => .any
  | choice test yes no =>
    (test.shape? known).bind fun _ =>
      (yes.shape? known).bind fun _ => (no.shape? known).map fun _ => .any

def shapes? (known : Known) : List Expression → Option (List Shape)
  | [] => some []
  | e :: rest => (e.shape? known).bind fun s => (shapes? known rest).map (s :: ·)

end

end Expression

def loopShape : Shape :=
  .record [("first", .any), ("last", .any), ("index", .any), ("index0", .any), ("length", .any)]

def Target.known? (known : Known) (element : Shape) : Target → Option Known
  | .single name => some (known.bind name element)
  | .several names =>
    match element with
    | .tuple length => if length = names.length then some (known.bindAll names) else none
    | _ => none

mutual

/-- Whether a node is sure to have a text and to leave what names are bound to. An assignment
outlives the part that it stands in, and is not followed. -/
def Node.isSound (known : Known) : Node → Bool
  | .text _ => true
  | .output e => (e.shape? known).isSome
  | .assign _ _ => false
  | .branch test yes no =>
    (test.shape? known).isSome && areSound known yes && areSound known no
  | .loop target sequence body empty =>
    match sequence.shape? known with
    | some (.list element) =>
      match target.known? (known.bind "loop" loopShape) element with
      | some inside => areSound inside body && areSound known empty
      | none => false
    | _ => false

def areSound (known : Known) : List Node → Bool
  | [] => true
  | node :: rest => node.isSound known && areSound known rest

end

section Scopes

variable {known : Known} {scopes : Scopes} {name : String} {s : Shape} {v : Value}

theorem fits_any_of_absent (absent : known name = none) (meets : Meets known scopes) :
    scopes.lookup name = .undefined := by
  have here := meets name
  rwa [absent] at here

theorem fits_of_known (found : known name = some s) (meets : Meets known scopes) :
    Fits s (scopes.lookup name) := by
  have here := meets name
  rwa [found] at here

theorem lookup_bind (scopes : Scopes) (name other : String) (v : Value) :
    (scopes.bind name v).lookup other = if other = name then v else scopes.lookup other := by
  cases scopes with
  | nil =>
    simp only [Scopes.bind, Scopes.lookup, List.findSome?_cons, Dictionary.get?_insert]
    by_cases same : other = name <;> simp [same, Dictionary.empty, Dictionary.get?]
  | cons scope outer =>
    simp only [Scopes.bind, Scopes.lookup, List.findSome?_cons, Dictionary.get?_insert]
    by_cases same : other = name <;> simp [same]

theorem Meets.bind (meets : Meets known scopes) (fits : Fits s v) :
    Meets (known.bind name s) (scopes.bind name v) := by
  intro other
  rw [lookup_bind, Known.bind]
  by_cases same : other = name
  · rw [if_pos same, if_pos same]
    exact fits
  · rw [if_neg same, if_neg same]
    exact meets other

theorem lookup_bindAll (scopes : Scopes) {names : List String} {items : List Value}
    (lengths : names.length = items.length) (absent : name ∉ names) :
    ((names.zip items).foldl (fun scopes (name, item) => scopes.bind name item) scopes).lookup name =
      scopes.lookup name := by
  induction names generalizing items scopes with
  | nil => rfl
  | cons first names ih =>
    obtain ⟨item, items, rfl⟩ := List.exists_cons_of_length_eq_add_one lengths.symm
    obtain ⟨apart, later⟩ := not_or.mp (mt List.mem_cons.mpr absent)
    rw [List.zip_cons_cons, List.foldl_cons, ih _ (Nat.succ.inj lengths) later, lookup_bind,
      if_neg apart]

theorem Meets.bindAll (meets : Meets known scopes) {names : List String} {items : List Value}
    (lengths : names.length = items.length) :
    Meets (known.bindAll names)
      ((names.zip items).foldl (fun scopes (name, item) => scopes.bind name item) scopes) := by
  intro other
  rw [Known.bindAll]
  by_cases bound : other ∈ names
  · rw [if_pos (by simpa using bound)]
    exact .any _
  · rw [if_neg (by simpa using bound), lookup_bindAll scopes lengths bound]
    exact meets other

theorem Meets.enter (meets : Meets known scopes) : Meets known (.empty :: scopes) :=
  meets

end Scopes

section Targets

variable {known inside : Known} {scopes : Scopes} {element : Shape} {target : Target} {v : Value}

theorem bindTarget_ok (entered : target.known? known element = some inside)
    (meets : Meets known scopes) (fits : Fits element v) :
    ∃ bound, scopes.bindTarget target v = .ok bound ∧ Meets inside bound := by
  cases target with
  | single name =>
    cases entered
    exact ⟨_, rfl, meets.bind fits⟩
  | several names =>
    cases fits with
    | tuple items =>
      simp only [Target.known?] at entered
      split at entered
      · rename_i lengths
        cases entered
        exact ⟨_, if_pos lengths.symm, meets.bindAll lengths.symm⟩
      · cases entered
    | _ => cases entered

theorem known?_again (entered : target.known? (known.bind "loop" loopShape) element = some inside) :
    target.known? (inside.bind "loop" loopShape) element = some inside := by
  cases target with
  | single name =>
    cases entered
    refine congrArg some (funext fun other => ?_)
    simp only [Known.bind]
    grind
  | several names =>
    cases element with
    | tuple length =>
      simp only [Target.known?] at entered ⊢
      split at entered
      · rename_i lengths
        cases entered
        rw [if_pos lengths]
        refine congrArg some (funext fun other => ?_)
        simp only [Known.bind, Known.bindAll]
        grind
      · cases entered
    | _ => cases entered

end Targets

section Records

variable {fields : List (String × Shape)} {entries : List (String × Value)} {name : String}

def Matches (fields : List (String × Shape)) (entries : List (String × Value)) : Prop :=
  List.Forall₂ (fun field entry => field.1 = entry.1 ∧ Fits field.2 entry.2) fields entries

theorem Matches.find (aligned : Matches fields entries) {s : Shape}
    (found : fields.lookup name = some s) : ∃ v, (name, v) ∈ entries ∧ Fits s v := by
  induction aligned with
  | nil => cases found
  | @cons field entry _ _ first _ ih =>
    obtain ⟨key, fits⟩ := first
    rw [Dictionary.lookup_cons] at found
    split at found
    · rename_i here
      cases found
      exact ⟨entry.2, by rw [here, key]; exact List.mem_cons_self .., fits⟩
    · obtain ⟨v, listed, fits⟩ := ih found
      exact ⟨v, List.mem_cons_of_mem _ listed, fits⟩

theorem Matches.absent (aligned : Matches fields entries) (absent : fields.lookup name = none) :
    name ∉ entries.map Prod.fst := by
  induction aligned with
  | nil => exact List.not_mem_nil
  | @cons field entry _ _ first _ ih =>
    rw [Dictionary.lookup_cons] at absent
    split at absent
    · cases absent
    · rename_i apart
      rw [List.map_cons, List.mem_cons, not_or, ← first.1]
      exact ⟨apart, ih absent⟩

theorem fits_record (distinct : (entries.map Prod.fst).Nodup) (aligned : Matches fields entries) :
    Fits (.record fields) (.record entries) := by
  refine .record fun name s found => ?_
  obtain ⟨v, listed, fits⟩ := aligned.find found
  have bound : (Dictionary.ofList entries).entries.lookup name = some v :=
    Dictionary.get?_ofList_of_nodup distinct listed
  rw [bound]
  exact fits

theorem meets_record (distinct : (entries.map Prod.fst).Nodup) (aligned : Matches fields entries) :
    Meets (fields.lookup ·) (scopesOf (.record entries)) := by
  intro name
  have bound : (scopesOf (.record entries)).lookup name =
      ((Dictionary.ofList entries).get? name).getD .undefined := by
    rw [scopesOf_record, Scopes.lookup]
    cases found : (Dictionary.ofList entries).get? name <;> simp [found]
  change (fields.lookup name).elim _ _
  rw [bound]
  cases found : fields.lookup name with
  | none =>
    rw [Dictionary.get?_ofList_of_absent (aligned.absent found), Option.elim_none]
    rfl
  | some s =>
    obtain ⟨v, listed, fits⟩ := aligned.find found
    rw [Dictionary.get?_ofList_of_nodup distinct listed, Option.elim_some]
    exact fits

theorem fits_loopState (i size : Nat) : Fits loopShape (loopState i size) := by
  refine fits_record (by simp) ?_
  simp [Matches, Fits.any]

end Records

section Functions

variable {shapes : List Shape} {values : List Value} {s : Shape}

theorem rangeOf_ok {n : Nat} (small : n ≤ rangeLimit) :
    rangeOf (.ofNumber n) none none = .ok (.list ((List.range' 0 n).map Value.ofNumber)) := by
  have counted : (Value.ofNumber n).count = .ok n :=
    if_pos (Nat.lt_of_le_of_lt small (by decide))
  have size : (n - 0 + (1 - 1)) / 1 = n := Nat.div_one n
  change ((Value.ofNumber n).count >>= fun bound => range 0 bound 1) = _
  rw [counted]
  change range 0 n 1 = _
  rw [range, size, if_neg (by omega)]

theorem callFunction_ok {function : String} (shaped : callShape? function shapes = some s)
    (fits : List.Forall₂ Fits shapes values) :
    ∃ v, callFunction function values = .ok v ∧ Fits s v := by
  unfold callShape? at shaped
  split at shaped
  · cases shaped
    obtain ⟨_, _, first, rest, rfl⟩ := List.forall₂_cons_left_iff.mp fits
    obtain ⟨_, _, second, none, rfl⟩ := List.forall₂_cons_left_iff.mp rest
    cases none
    cases first
    cases second
    exact ⟨_, rfl, .record nofun⟩
  · cases shaped
    obtain ⟨_, _, first, none, rfl⟩ := List.forall₂_cons_left_iff.mp fits
    cases none
    cases first with
    | @size n small =>
      exact ⟨_, rangeOf_ok small, .list fun v _ => .any v⟩
  · cases shaped

theorem applyFilter_ok {name : String} (shaped : filterShape? name shapes = some s)
    (fits : List.Forall₂ Fits shapes values) :
    ∃ v, applyFilter name values = .ok v ∧ Fits s v := by
  unfold filterShape? at shaped
  split at shaped
  case h_5 =>
    cases shaped
    obtain ⟨_, _, first, none, rfl⟩ := List.forall₂_cons_left_iff.mp fits
    cases none
    cases first
    refine ⟨_, rfl, .list fun pair member => ?_⟩
    obtain ⟨⟨key, v⟩, -, rfl⟩ := List.mem_map.mp member
    exact .tuple [.text key, v]
  case h_6 => cases shaped
  all_goals
    cases shaped
    obtain ⟨v, _, -, none, rfl⟩ := List.forall₂_cons_left_iff.mp fits
    cases none
    exact ⟨_, rfl, .any _⟩

end Functions

namespace Expression

variable {known : Known} {scopes : Scopes}

theorem both_ok {a b : Option Shape} {x y : Rendering Value} {s : Shape}
    (shaped : (a.bind fun _ => b.map fun _ => .any) = some s)
    (left : ∀ {t : Shape}, a = some t → ∃ v, x = .ok v ∧ Fits t v)
    (right : ∀ {t : Shape}, b = some t → ∃ w, y = .ok w ∧ Fits t w) :
    ∃ v w, x = .ok v ∧ y = .ok w ∧ s = .any := by
  obtain ⟨_, first, shaped⟩ := Option.bind_eq_some_iff.mp shaped
  obtain ⟨_, second, rfl⟩ := Option.map_eq_some_iff.mp shaped
  obtain ⟨v, made, -⟩ := left first
  obtain ⟨w, also, -⟩ := right second
  exact ⟨v, w, made, also, rfl⟩

mutual

theorem eval_ok (meets : Meets known scopes) :
    ∀ (e : Expression) {s : Shape}, e.shape? known = some s → ∃ v, e.eval scopes = .ok v ∧ Fits s v
  | value v, _, shaped => by
    cases shaped
    exact ⟨v, rfl, .any v⟩
  | reference name, _, shaped => by
    cases shaped
    refine ⟨_, rfl, ?_⟩
    cases found : known name with
    | none => exact .any _
    | some s => exact fits_of_known found meets
  | list items, _, shaped => by
    obtain ⟨shapes, inner, rfl⟩ := Option.map_eq_some_iff.mp shaped
    obtain ⟨values, made, fits⟩ := evalAll_ok meets items inner
    refine ⟨.list values, bind_eq_ok_iff.mpr ⟨values, made, rfl⟩, ?_⟩
    rw [fits.length_eq]
    exact .tuple values
  | member subject name, _, shaped => by
    unfold shape? at shaped
    split at shaped
    · rename_i fields here
      obtain ⟨v, made, fits⟩ := eval_ok meets subject here
      cases fits with
      | record found =>
        exact ⟨_, bind_eq_ok_iff.mpr ⟨_, made, rfl⟩, found name _ shaped⟩
    · cases shaped
  | item _ _, _, shaped => by cases shaped
  | call function arguments, _, shaped => by
    unfold shape? at shaped
    split at shaped
    · cases shaped
    rename_i free
    obtain ⟨shapes, inner, shaped⟩ := Option.bind_eq_some_iff.mp shaped
    obtain ⟨values, made, fits⟩ := evalAll_ok meets arguments inner
    obtain ⟨v, called, fits⟩ := callFunction_ok shaped fits
    have absent : known function = none := Option.not_isSome_iff_eq_none.mp free
    refine ⟨v, bind_eq_ok_iff.mpr ⟨values, made, ?_⟩, fits⟩
    rw [fits_any_of_absent absent meets]
    exact called
  | filter subject name arguments, _, shaped => by
    obtain ⟨s, first, shaped⟩ := Option.bind_eq_some_iff.mp shaped
    obtain ⟨shapes, inner, shaped⟩ := Option.bind_eq_some_iff.mp shaped
    obtain ⟨v, made, fits⟩ := eval_ok meets subject first
    obtain ⟨values, others, further⟩ := evalAll_ok meets arguments inner
    obtain ⟨w, filtered, fits⟩ := applyFilter_ok shaped (.cons fits further)
    exact ⟨w, bind_eq_ok_iff.mpr ⟨v, made, bind_eq_ok_iff.mpr ⟨values, others, filtered⟩⟩, fits⟩
  | concat left right, _, shaped => by
    obtain ⟨v, w, made, also, rfl⟩ := both_ok shaped (eval_ok meets left) (eval_ok meets right)
    exact ⟨_, bind_eq_ok_iff.mpr ⟨v, made, bind_eq_ok_iff.mpr ⟨w, also, rfl⟩⟩, .any _⟩
  | equal left right, _, shaped => by
    obtain ⟨v, w, made, also, rfl⟩ := both_ok shaped (eval_ok meets left) (eval_ok meets right)
    exact ⟨_, bind_eq_ok_iff.mpr ⟨v, made, bind_eq_ok_iff.mpr ⟨w, also, rfl⟩⟩, .any _⟩
  | not operand, _, shaped => by
    obtain ⟨_, first, rfl⟩ := Option.map_eq_some_iff.mp shaped
    obtain ⟨v, made, -⟩ := eval_ok meets operand first
    exact ⟨_, bind_eq_ok_iff.mpr ⟨v, made, rfl⟩, .any _⟩
  | and left right, _, shaped => by
    obtain ⟨v, w, made, also, rfl⟩ := both_ok shaped (eval_ok meets left) (eval_ok meets right)
    cases test : v.isTrue with
    | true => exact ⟨w, bind_eq_ok_iff.mpr ⟨v, made, by rw [test]; exact also⟩, .any w⟩
    | false => exact ⟨v, bind_eq_ok_iff.mpr ⟨v, made, by rw [test]; rfl⟩, .any v⟩
  | or left right, _, shaped => by
    obtain ⟨v, w, made, also, rfl⟩ := both_ok shaped (eval_ok meets left) (eval_ok meets right)
    cases test : v.isTrue with
    | true => exact ⟨v, bind_eq_ok_iff.mpr ⟨v, made, by rw [test]; rfl⟩, .any v⟩
    | false => exact ⟨w, bind_eq_ok_iff.mpr ⟨v, made, by rw [test]; exact also⟩, .any w⟩
  | choice test yes no, _, shaped => by
    obtain ⟨_, asked, shaped⟩ := Option.bind_eq_some_iff.mp shaped
    obtain ⟨v, answer, -⟩ := eval_ok meets test asked
    obtain ⟨w, x, made, also, rfl⟩ := both_ok shaped (eval_ok meets yes) (eval_ok meets no)
    cases true : v.isTrue with
    | true => exact ⟨w, bind_eq_ok_iff.mpr ⟨v, answer, by rw [true]; exact made⟩, .any w⟩
    | false => exact ⟨x, bind_eq_ok_iff.mpr ⟨v, answer, by rw [true]; exact also⟩, .any x⟩

theorem evalAll_ok (meets : Meets known scopes) :
    ∀ (items : List Expression) {shapes : List Shape}, shapes? known items = some shapes →
      ∃ values, evalAll scopes items = .ok values ∧ List.Forall₂ Fits shapes values
  | [], _, shaped => by
    cases shaped
    exact ⟨[], rfl, .nil⟩
  | e :: rest, _, shaped => by
    obtain ⟨s, first, shaped⟩ := Option.bind_eq_some_iff.mp shaped
    obtain ⟨shapes, others, rfl⟩ := Option.map_eq_some_iff.mp shaped
    obtain ⟨v, made, fits⟩ := eval_ok meets e first
    obtain ⟨values, further, also⟩ := evalAll_ok meets rest others
    refine ⟨v :: values, ?_, .cons fits also⟩
    exact bind_eq_ok_iff.mpr ⟨v, made, bind_eq_ok_iff.mpr ⟨values, further, rfl⟩⟩

end

end Expression

section Nodes

variable {known inside : Known} {target : Target} {element : Shape}

theorem renderPasses_ok {body : Scopes → Rendering (String × Scopes)}
    (total : ∀ scopes, Meets inside scopes → ∃ text, body scopes = .ok (text, scopes)) (size : Nat)
    {passes : List (Value × Nat)} (fits : ∀ pass ∈ passes, Fits element pass.1) {scopes : Scopes}
    (entered : target.known? (known.bind "loop" loopShape) element = some inside)
    (meets : Meets known scopes) :
    ∃ text, renderPasses body target size scopes passes = .ok text := by
  induction passes generalizing known scopes with
  | nil => exact ⟨"", rfl⟩
  | cons pass passes ih =>
    obtain ⟨bound, made, within⟩ := bindTarget_ok entered (meets.bind (fits_loopState pass.2 size))
      (fits pass (List.mem_cons_self ..))
    obtain ⟨first, rendered⟩ := total bound within
    obtain ⟨others, later⟩ := ih (fun pass member => fits pass (List.mem_cons_of_mem _ member))
      (known?_again entered) within
    refine ⟨first ++ others, bind_eq_ok_iff.mpr ⟨bound, made, bind_eq_ok_iff.mpr ⟨_, rendered, ?_⟩⟩⟩
    exact bind_eq_ok_iff.mpr ⟨others, later, rfl⟩

mutual

theorem Node.render_ok {scopes : Scopes} {known : Known} (meets : Meets known scopes) :
    ∀ node : Node, node.isSound known = true → ∃ text, node.render scopes = .ok (text, scopes)
  | .text s, _ => ⟨s, rfl⟩
  | .output e, sound => by
    obtain ⟨_, shaped⟩ := Option.isSome_iff_exists.mp sound
    obtain ⟨v, made, -⟩ := e.eval_ok meets shaped
    exact ⟨v.display, bind_eq_ok_iff.mpr ⟨v, made, rfl⟩⟩
  | .assign _ _, sound => by cases sound
  | .branch test yes no, sound => by
    simp only [Node.isSound, Bool.and_eq_true] at sound
    obtain ⟨⟨asked, first⟩, second⟩ := sound
    obtain ⟨_, shaped⟩ := Option.isSome_iff_exists.mp asked
    obtain ⟨v, answer, -⟩ := test.eval_ok meets shaped
    obtain ⟨text, made⟩ := renderAll_ok meets yes first
    obtain ⟨other, also⟩ := renderAll_ok meets no second
    cases true : v.isTrue with
    | true => exact ⟨text, bind_eq_ok_iff.mpr ⟨v, answer, by rw [true]; exact made⟩⟩
    | false => exact ⟨other, bind_eq_ok_iff.mpr ⟨v, answer, by rw [true]; exact also⟩⟩
  | .loop target sequence body empty, sound => by
    simp only [Node.isSound] at sound
    split at sound
    · rename_i element shaped
      split at sound
      · rename_i inside entered
        obtain ⟨full, none⟩ := Bool.and_eq_true_iff.mp sound
        obtain ⟨v, made, fits⟩ := sequence.eval_ok meets shaped
        cases fits with
        | @list _ items each =>
          have passes : ∀ pass ∈ items.zipIdx, Fits element pass.1 := fun pass member =>
            each _ (List.fst_mem_of_mem_zipIdx member)
          obtain ⟨alternative, also⟩ := renderAll_ok meets empty none
          obtain ⟨text, passed⟩ := renderPasses_ok
            (fun _ within => renderAll_ok within body full) items.length passes entered meets.enter
          cases bare : items.isEmpty with
          | true =>
            refine ⟨alternative, bind_eq_ok_iff.mpr ⟨_, made, bind_eq_ok_iff.mpr ⟨items, rfl, ?_⟩⟩⟩
            rw [bare]
            exact also
          | false =>
            refine ⟨text, bind_eq_ok_iff.mpr ⟨_, made, bind_eq_ok_iff.mpr ⟨items, rfl, ?_⟩⟩⟩
            rw [bare]
            exact bind_eq_ok_iff.mpr ⟨text, passed, rfl⟩
      · cases sound
    · cases sound

theorem renderAll_ok {scopes : Scopes} {known : Known} (meets : Meets known scopes) :
    ∀ nodes : List Node, areSound known nodes = true →
      ∃ text, renderAll scopes nodes = .ok (text, scopes)
  | [], _ => ⟨"", rfl⟩
  | node :: rest, sound => by
    obtain ⟨first, later⟩ := Bool.and_eq_true_iff.mp sound
    obtain ⟨text, made⟩ := node.render_ok meets first
    obtain ⟨others, also⟩ := renderAll_ok meets rest later
    exact ⟨text ++ others, bind_eq_ok_iff.mpr ⟨_, made, bind_eq_ok_iff.mpr ⟨_, also, rfl⟩⟩⟩

end

end Nodes

def isSoundSource (fields : List (String × Shape)) (source : String) : Bool :=
  (ofSource? source).any (areSound (fields.lookup ·))

theorem isSome_of_isSoundSource {fields : List (String × Shape)} {source : String}
    (sound : isSoundSource fields source = true) : (ofSource? source).isSome = true := by
  cases read : ofSource? source with
  | none => simp [isSoundSource, read] at sound
  | some nodes => rfl

theorem exists_parse {source : String} (read : (ofSource? source).isSome = true) :
    ∃ t, Template.parse source = .ok t := by
  obtain ⟨nodes, read⟩ := Option.isSome_iff_exists.mp read
  exact ⟨⟨nodes⟩, by rw [Template.parse, read]⟩

/-- Such a template has a text wherever it is given what it relies on. -/
theorem render_ok {fields : List (String × Shape)} {entries : List (String × Value)}
    {source : String} {t : Template} (sound : isSoundSource fields source = true)
    (parsed : Template.parse source = .ok t) (distinct : (entries.map Prod.fst).Nodup)
    (aligned : Matches fields entries) : ∃ text, t.render (.record entries) = .ok text := by
  unfold isSoundSource at sound
  unfold Template.parse at parsed
  split at parsed
  · rename_i nodes read
    cases parsed
    rw [read] at sound
    obtain ⟨text, made⟩ := renderAll_ok (meets_record distinct aligned) nodes sound
    exact ⟨text, bind_eq_ok_iff.mpr ⟨_, made, rfl⟩⟩
  · cases parsed

end Dispatchers.Template
