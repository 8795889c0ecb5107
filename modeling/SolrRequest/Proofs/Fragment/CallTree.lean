import SolrRequest.Proofs.Fragment.Acceptance
import SolrRequest.Proofs.Outcome
import SolrRequest.Proofs.Text.Prefix

/-!
# Texts of nested calls

A function query is a tree of calls: an operation and arguments, which are calls again or have
texts of their own (`CallTree`). When operations and texts hold none of the marks of a call, which
are the comma and the two parentheses, the text of the tree can be told from what follows it
(`CallTree.text_append_inj`), so the nesting, the number of arguments and their order can all be
read off it (`CallTree.text_inj`).

The function prefix stands in front of the outermost call only. A call at a level is put together
from its arguments one level below (`FunctionQuery.fragment_eq`), and only level 0 writes the
prefix.
-/

namespace SolrRequest

open Text

/-! ## Words -/

/-- A character that is no mark of a call. -/
def isCallChar (c : Char) : Bool :=
  c != ',' && c != '(' && c != ')'

/-- A text that can stand for an operation or an argument without being mistaken for a call. -/
def IsCallWord (w : String) : Prop :=
  w ≠ "" ∧ ∀ c ∈ w.toList, isCallChar c = true

instance (w : String) : Decidable (IsCallWord w) :=
  decidable_of_iff (w ≠ "" ∧ w.toList.all isCallChar = true)
    (and_congr_right fun _ => List.all_eq_true)

theorem IsCallWord.exists_cons {w : String} (h : IsCallWord w) :
    ∃ c r, w.toList = c :: r ∧ isCallChar c = true := by
  obtain ⟨hne, hall⟩ := h
  cases hw : w.toList with
  | nil => exact absurd (String.toList_eq_nil_iff.mp hw) hne
  | cons c r => exact ⟨c, r, rfl, hall c (hw ▸ List.mem_cons_self)⟩

/-- What may follow an argument: nothing, another argument, or the end of its call. -/
def EndsArgument (s : List Char) : Prop :=
  ∀ c ∈ s.head?, c = ',' ∨ c = ')'

theorem endsArgument_cons {c : Char} (h : c = ',' ∨ c = ')') (r : List Char) :
    EndsArgument (c :: r) := by
  intro d hd
  cases hd
  exact h

theorem EndsArgument.startsOutside {x : List Char} (h : EndsArgument x) :
    StartsOutside isCallChar x := by
  intro c hc
  rcases h c hc with rfl | rfl <;> decide

theorem EndsArgument.ne_call {x : List Char} (h : EndsArgument x) (r : List Char) :
    x ≠ '(' :: r := by
  rintro rfl
  rcases h '(' rfl with he | he <;> exact absurd he (by decide)

/-! ## Trees -/

/-- What a function query says: its operation with its arguments, or the text of an argument that is
no call. -/
inductive CallTree where
  | leaf (text : String)
  | call (operation : String) (arguments : List CallTree)

namespace CallTree

mutual

/-- The text of a tree: `operation(argument,argument)`. -/
def text : CallTree → String
  | leaf t => t
  | call operation arguments => operation ++ "(" ++ ",".intercalate (argumentTexts arguments) ++ ")"

def argumentTexts : List CallTree → List String
  | [] => []
  | t :: r => t.text :: argumentTexts r

end

mutual

/-- Operations and texts are free of the marks of a call. -/
def WellFormed : CallTree → Prop
  | leaf t => IsCallWord t
  | call operation arguments => IsCallWord operation ∧ ArgumentsWellFormed arguments

def ArgumentsWellFormed : List CallTree → Prop
  | [] => True
  | t :: r => t.WellFormed ∧ ArgumentsWellFormed r

end

/-- The arguments behind the first one, each with the comma in front of it. -/
def following (texts : List String) : List Char :=
  texts.flatMap fun t => ',' :: t.toList

theorem toList_intercalate_cons (t : String) (r : List String) :
    (",".intercalate (t :: r)).toList = t.toList ++ following r := by
  induction r generalizing t with
  | nil => simp [following]
  | cons u r ih =>
    rw [String.intercalate_cons_cons, String.toList_append, String.toList_append, ih]
    simp [following]

/-- The arguments of a call with its closing parenthesis, and what follows the call. -/
def closing (arguments : List CallTree) (x : List Char) : List Char :=
  (",".intercalate (argumentTexts arguments)).toList ++ ')' :: x

theorem toList_call_append (operation : String) (arguments : List CallTree) (x : List Char) :
    (call operation arguments).text.toList ++ x =
      operation.toList ++ '(' :: closing arguments x := by
  simp [text, closing]

theorem closing_nil (x : List Char) : closing [] x = ')' :: x := rfl

theorem closing_cons (t : CallTree) (r : List CallTree) (x : List Char) :
    closing (t :: r) x = t.text.toList ++ (following (argumentTexts r) ++ ')' :: x) := by
  rw [closing, argumentTexts, toList_intercalate_cons, List.append_assoc]

theorem following_cons (t : CallTree) (r : List CallTree) (x : List Char) :
    following (argumentTexts (t :: r)) ++ x =
      ',' :: (t.text.toList ++ (following (argumentTexts r) ++ x)) := by
  simp [argumentTexts, following]

/-- Behind an argument stands a comma or the parenthesis of its call. -/
theorem endsArgument_following (r : List CallTree) (x : List Char) :
    EndsArgument (following (argumentTexts r) ++ ')' :: x) := by
  cases r with
  | nil => exact endsArgument_cons (.inr rfl) x
  | cons t r =>
    rw [following_cons]
    exact endsArgument_cons (.inl rfl) _

/-- No argument starts like the end of a call. -/
theorem text_append_ne {t : CallTree} (ht : t.WellFormed) (x y : List Char) :
    t.text.toList ++ x ≠ ')' :: y := by
  have hword : ∀ w, IsCallWord w → ∀ z, w.toList ++ z ≠ ')' :: y := by
    intro w hw z h
    obtain ⟨c, r, hcons, hc⟩ := hw.exists_cons
    rw [hcons, List.cons_append] at h
    rw [List.head_eq_of_cons_eq h] at hc
    exact absurd hc (by decide)
  cases t with
  | leaf t =>
    rw [WellFormed] at ht
    exact hword t ht x
  | call operation arguments =>
    rw [WellFormed] at ht
    rw [toList_call_append]
    exact hword operation ht.1 _

theorem word_append_inj {v w : String} {x y : List Char} (hv : IsCallWord v) (hw : IsCallWord w)
    (hx : StartsOutside isCallChar x) (hy : StartsOutside isCallChar y)
    (h : v.toList ++ x = w.toList ++ y) : v = w ∧ x = y := by
  obtain ⟨hvw, hxy⟩ := run_append_inj hv.2 hw.2 hx hy h
  exact ⟨String.toList_inj.mp hvw, hxy⟩

/-- A parenthesis ends a word. -/
theorem startsOutside_call (x : List Char) : StartsOutside isCallChar ('(' :: x) :=
  startsOutside_cons (by decide) x

mutual

/-- A tree is told from what follows it. -/
theorem text_append_inj : ∀ {t u : CallTree} {x y : List Char}, t.WellFormed → u.WellFormed →
    EndsArgument x → EndsArgument y → t.text.toList ++ x = u.text.toList ++ y → t = u ∧ x = y
  | leaf t, leaf u, x, y, ht, hu, hx, hy, h => by
    rw [WellFormed] at ht hu
    rw [text, text] at h
    obtain ⟨rfl, hxy⟩ := word_append_inj ht hu hx.startsOutside hy.startsOutside h
    exact ⟨rfl, hxy⟩
  | leaf t, call o l, x, y, ht, hu, hx, _, h => by
    rw [WellFormed] at ht
    rw [WellFormed] at hu
    rw [text, toList_call_append] at h
    obtain ⟨-, hcall⟩ := word_append_inj ht hu.1 hx.startsOutside (startsOutside_call _) h
    exact absurd hcall (hx.ne_call _)
  | call o l, leaf u, x, y, ht, hu, _, hy, h => by
    rw [WellFormed] at ht
    rw [WellFormed] at hu
    rw [text, toList_call_append] at h
    obtain ⟨-, hcall⟩ := word_append_inj ht.1 hu (startsOutside_call _) hy.startsOutside h
    exact absurd hcall.symm (hy.ne_call _)
  | call o l, call p m, x, y, ht, hu, _, _, h => by
    rw [WellFormed] at ht hu
    rw [toList_call_append, toList_call_append] at h
    obtain ⟨rfl, hcall⟩ :=
      word_append_inj ht.1 hu.1 (startsOutside_call _) (startsOutside_call _) h
    obtain ⟨rfl, hxy⟩ := closing_inj ht.2 hu.2 (List.tail_eq_of_cons_eq hcall)
    exact ⟨rfl, hxy⟩

/-- The arguments of a call end at its parenthesis. -/
theorem closing_inj : ∀ {l m : List CallTree} {x y : List Char}, ArgumentsWellFormed l →
    ArgumentsWellFormed m → closing l x = closing m y → l = m ∧ x = y
  | [], [], x, y, _, _, h => ⟨rfl, List.tail_eq_of_cons_eq h⟩
  | [], u :: m, x, y, _, hm, h => by
    rw [closing_nil, closing_cons] at h
    rw [ArgumentsWellFormed] at hm
    exact absurd h.symm (text_append_ne hm.1 _ _)
  | t :: l, [], x, y, hl, _, h => by
    rw [closing_nil, closing_cons] at h
    rw [ArgumentsWellFormed] at hl
    exact absurd h (text_append_ne hl.1 _ _)
  | t :: l, u :: m, x, y, hl, hm, h => by
    rw [ArgumentsWellFormed] at hl hm
    rw [closing_cons, closing_cons] at h
    obtain ⟨rfl, hrest⟩ := text_append_inj hl.1 hm.1 (endsArgument_following l x)
      (endsArgument_following m y) h
    obtain ⟨rfl, hxy⟩ := following_inj hl.2 hm.2 hrest
    exact ⟨rfl, hxy⟩

theorem following_inj : ∀ {l m : List CallTree} {x y : List Char}, ArgumentsWellFormed l →
    ArgumentsWellFormed m →
    following (argumentTexts l) ++ ')' :: x = following (argumentTexts m) ++ ')' :: y →
    l = m ∧ x = y
  | [], [], x, y, _, _, h => ⟨rfl, List.tail_eq_of_cons_eq h⟩
  | [], u :: m, x, y, _, _, h => by
    rw [following_cons] at h
    exact absurd (List.head_eq_of_cons_eq h) (by decide)
  | t :: l, [], x, y, _, _, h => by
    rw [following_cons] at h
    exact absurd (List.head_eq_of_cons_eq h) (by decide)
  | t :: l, u :: m, x, y, hl, hm, h => by
    rw [ArgumentsWellFormed] at hl hm
    rw [following_cons, following_cons] at h
    obtain ⟨rfl, hrest⟩ := text_append_inj hl.1 hm.1 (endsArgument_following l x)
      (endsArgument_following m y) (List.tail_eq_of_cons_eq h)
    obtain ⟨rfl, hxy⟩ := following_inj hl.2 hm.2 hrest
    exact ⟨rfl, hxy⟩

end

end CallTree

/-! ## Trees of function queries -/

/-- The argument has a text of its own that is no call. -/
def Argument.HasWord (s : Scope) (a : Argument) : Prop :=
  ∃ text, a.text s = .ok text ∧ IsCallWord text

/-- An argument that is no call. -/
def Argument.leaf (s : Scope) (a : Argument) : CallTree :=
  .leaf ((a.text s).toOption.getD "")

mutual

/-- Operations are not blank, and they and the texts of arguments are free of the marks of a
call. -/
def FunctionQuery.Plain (s : Scope) : FunctionQuery → Prop
  | ⟨operation, none⟩ => isBlank operation = false ∧ IsCallWord operation
  | ⟨operation, some arguments⟩ =>
    (isBlank operation = false ∧ IsCallWord operation) ∧ FunctionQuery.ArgumentsPlain s arguments

def FunctionQuery.ArgumentsPlain (s : Scope) : List Argument → Prop
  | [] => True
  | a :: r => a.Plain s ∧ FunctionQuery.ArgumentsPlain s r

/-- Other functions among the arguments are plain again. -/
def Argument.Plain (s : Scope) : Argument → Prop
  | .function f => f.Plain s
  | .value v => (Argument.value v).HasWord s
  | .field f => (Argument.field f).HasWord s
  | .criteria n => (Argument.criteria n).HasWord s
  | .query q => (Argument.query q).HasWord s

end

mutual

/-- The tree of a function query; an absent list of arguments is an empty one. -/
def FunctionQuery.callTree (s : Scope) : FunctionQuery → CallTree
  | ⟨operation, none⟩ => .call operation []
  | ⟨operation, some arguments⟩ => .call operation (FunctionQuery.argumentTrees s arguments)

def FunctionQuery.argumentTrees (s : Scope) : List Argument → List CallTree
  | [] => []
  | a :: r => a.callTree s :: FunctionQuery.argumentTrees s r

def Argument.callTree (s : Scope) : Argument → CallTree
  | .function f => f.callTree s
  | .value v => (Argument.value v).leaf s
  | .field f => (Argument.field f).leaf s
  | .criteria n => (Argument.criteria n).leaf s
  | .query q => (Argument.query q).leaf s

end

theorem Argument.HasWord.wellFormed_leaf {s : Scope} {a : Argument} (h : a.HasWord s) :
    (a.leaf s).WellFormed := by
  obtain ⟨text, htext, hword⟩ := h
  rw [Argument.leaf, htext, CallTree.WellFormed]
  exact hword

theorem Argument.HasWord.text_leaf {s : Scope} {a : Argument} (h : a.HasWord s) :
    a.text s = .ok (a.leaf s).text := by
  obtain ⟨text, htext, -⟩ := h
  rw [Argument.leaf, htext, CallTree.text]
  rfl

mutual

theorem FunctionQuery.Plain.wellFormed_callTree {s : Scope} :
    ∀ {f : FunctionQuery}, f.Plain s → (f.callTree s).WellFormed
  | ⟨operation, none⟩, h => by
    rw [FunctionQuery.Plain] at h
    rw [FunctionQuery.callTree, CallTree.WellFormed]
    exact ⟨h.2, trivial⟩
  | ⟨operation, some arguments⟩, h => by
    rw [FunctionQuery.Plain] at h
    rw [FunctionQuery.callTree, CallTree.WellFormed]
    exact ⟨h.1.2, FunctionQuery.ArgumentsPlain.wellFormed h.2⟩

theorem FunctionQuery.ArgumentsPlain.wellFormed {s : Scope} : ∀ {arguments : List Argument},
    FunctionQuery.ArgumentsPlain s arguments →
      CallTree.ArgumentsWellFormed (FunctionQuery.argumentTrees s arguments)
  | [], _ => trivial
  | a :: r, h => by
    rw [FunctionQuery.ArgumentsPlain] at h
    rw [FunctionQuery.argumentTrees, CallTree.ArgumentsWellFormed]
    exact ⟨Argument.Plain.wellFormed_callTree h.1, FunctionQuery.ArgumentsPlain.wellFormed h.2⟩

theorem Argument.Plain.wellFormed_callTree {s : Scope} :
    ∀ {a : Argument}, a.Plain s → (a.callTree s).WellFormed
  | .function f, h => by
    rw [Argument.Plain] at h
    rw [Argument.callTree]
    exact FunctionQuery.Plain.wellFormed_callTree h
  | .value _, h | .field _, h | .criteria _, h | .query _, h => by
    rw [Argument.Plain] at h
    rw [Argument.callTree]
    exact h.wellFormed_leaf

end

/-! ## Texts of function queries -/

/-- An operation that is not blank passes its check. -/
theorem FunctionQuery.check_of_named {f : FunctionQuery} (h : isBlank f.operation = false) :
    f.check = .ok () := by
  rw [FunctionQuery.check, h]
  rfl

/-- A call without arguments is written like any other. -/
theorem emptyCall_eq (operation : String) :
    operation ++ "()" = operation ++ "(" ++ ",".intercalate [] ++ ")" := by
  rw [← String.toList_inj]
  simp

mutual

/-- A lenient compiler writes a plain function query as its tree. -/
theorem FunctionQuery.Plain.body_eq {s : Scope}
    (hs : s.compiler.configuration.strictFunctions = false) :
    ∀ {f : FunctionQuery}, f.Plain s → f.body s = .ok (f.callTree s).text
  | ⟨operation, none⟩, h => by
    rw [FunctionQuery.Plain] at h
    rw [FunctionQuery.body, FunctionQuery.check_of_named h.1, FunctionQuery.callTree,
      CallTree.text, CallTree.argumentTexts, hs, ← emptyCall_eq]
    rfl
  | ⟨operation, some arguments⟩, h => by
    rw [FunctionQuery.Plain] at h
    rw [FunctionQuery.body, FunctionQuery.check_of_named h.1.1, FunctionQuery.callTree,
      CallTree.text, hs, FunctionQuery.ArgumentsPlain.argumentTexts_eq hs h.2]
    rfl

theorem FunctionQuery.ArgumentsPlain.argumentTexts_eq {s : Scope}
    (hs : s.compiler.configuration.strictFunctions = false) :
    ∀ {arguments : List Argument}, FunctionQuery.ArgumentsPlain s arguments →
      FunctionQuery.argumentTexts s arguments =
        .ok (CallTree.argumentTexts (FunctionQuery.argumentTrees s arguments))
  | [], _ => rfl
  | a :: r, h => by
    rw [FunctionQuery.ArgumentsPlain] at h
    rw [FunctionQuery.argumentTexts, Argument.Plain.text_eq hs h.1,
      FunctionQuery.ArgumentsPlain.argumentTexts_eq hs h.2, FunctionQuery.argumentTrees,
      CallTree.argumentTexts]
    rfl

theorem Argument.Plain.text_eq {s : Scope}
    (hs : s.compiler.configuration.strictFunctions = false) :
    ∀ {a : Argument}, a.Plain s → a.text s = .ok (a.callTree s).text
  | .function f, h => by
    rw [Argument.Plain] at h
    rw [Argument.text, Argument.callTree]
    exact FunctionQuery.Plain.body_eq hs h
  | .value _, h | .field _, h | .criteria _, h | .query _, h => by
    rw [Argument.Plain] at h
    rw [Argument.callTree]
    exact h.text_leaf

end

/-! ## Levels -/

/-- The prefix of a function query at a level of nesting. -/
def prefixAt (level : Nat) : String :=
  if level = 0 then functionPrefix else ""

/-- The text of an argument of a call at a level; a function among the arguments is one level
below. -/
def Argument.textAt (s : Scope) (level : Nat) : Argument → Except Error String
  | .function f => f.fragment s (level + 1)
  | a => a.text s

theorem FunctionQuery.fragment_eq_map_body (s : Scope) (level : Nat) (f : FunctionQuery) :
    f.fragment s level = (prefixAt level ++ ·) <$> f.body s := by
  have htext : ∀ body, (if level = 0 then functionPrefix ++ body else body) =
      prefixAt level ++ body := by
    intro body
    rw [prefixAt]
    split
    · rfl
    · exact String.empty_append.symm
  rw [FunctionQuery.fragment]
  simp only [htext]
  rfl

theorem FunctionQuery.fragment_succ (s : Scope) (level : Nat) (f : FunctionQuery) :
    f.fragment s (level + 1) = f.body s := by
  rw [FunctionQuery.fragment_eq_map_body, prefixAt, if_neg (Nat.succ_ne_zero level)]
  cases f.body s with
  | error e => rfl
  | ok body => exact congrArg Except.ok String.empty_append

theorem Argument.textAt_eq (s : Scope) (level : Nat) (a : Argument) :
    a.textAt s level = a.text s := by
  cases a with
  | function f => rw [Argument.textAt, FunctionQuery.fragment_succ, Argument.text]
  | value | field | criteria | query => rfl

theorem FunctionQuery.argumentTexts_eq_mapM (s : Scope) (level : Nat) (arguments : List Argument) :
    FunctionQuery.argumentTexts s arguments = arguments.mapM (Argument.textAt s level) := by
  induction arguments with
  | nil => rfl
  | cons a r ih => rw [FunctionQuery.argumentTexts, List.mapM_cons, ← ih, Argument.textAt_eq]

/-- A call at a level is put together from its arguments one level below. -/
theorem FunctionQuery.fragment_eq (s : Scope) (level : Nat) (f : FunctionQuery) :
    f.fragment s level = do
      f.check
      if s.compiler.configuration.strictFunctions then f.checkArity
      let texts ← f.args.mapM (Argument.textAt s level)
      return prefixAt level ++ (f.operation ++ "(" ++ ",".intercalate texts ++ ")") := by
  have hbody : f.body s = do
      f.check
      if s.compiler.configuration.strictFunctions then f.checkArity
      let texts ← FunctionQuery.argumentTexts s f.args
      return f.operation ++ "(" ++ ",".intercalate texts ++ ")" := by
    obtain ⟨operation, _ | arguments⟩ := f
    · rw [FunctionQuery.body, emptyCall_eq]
      rfl
    · rw [FunctionQuery.body]
      rfl
  rw [FunctionQuery.fragment_eq_map_body, hbody, FunctionQuery.argumentTexts_eq_mapM s level]
  have hlast : (prefixAt level ++ ·) <$> (f.args.mapM (Argument.textAt s level) >>= fun texts =>
      .ok (f.operation ++ "(" ++ ",".intercalate texts ++ ")")) =
      f.args.mapM (Argument.textAt s level) >>= fun texts =>
        .ok (prefixAt level ++ (f.operation ++ "(" ++ ",".intercalate texts ++ ")")) := by
    cases f.args.mapM (Argument.textAt s level) <;> rfl
  cases f.check with
  | error e => rfl
  | ok u =>
    by_cases hstrict : s.compiler.configuration.strictFunctions = true
    · simp only [hstrict, if_true]
      cases f.checkArity with
      | error e => rfl
      | ok v => exact hlast
    · simp only [hstrict]
      exact hlast

end SolrRequest
