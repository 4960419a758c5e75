import SchemaLedger.Text.Parts

/-! # Texts that are read in one way only

A form in which values are written is readable before certain rests when a written value and the
rest behind it can be told from the text that they make together. Quoted texts are readable before
all that does not begin with their quote, and what is put together from readable forms, one after
the other or as a joined list, is readable again.
-/

namespace SchemaLedger.Text

set_option autoImplicit false

variable {α β ω : Type} {Rest : List Char → Prop}

def Readable (Rest : List Char → Prop) (write : α → String) : Prop :=
  ∀ a b r s, Rest r → Rest s → (write a).toList ++ r = (write b).toList ++ s → a = b ∧ r = s

/-- What does not begin with the quote. -/
def Apart (quote : Char) (rest : List Char) : Prop :=
  rest.head? ≠ some quote

instance (quote : Char) (rest : List Char) : Decidable (Apart quote rest) :=
  inferInstanceAs (Decidable (_ ≠ _))

theorem apart_append {quote : Char} {start : List Char} (rest : List Char)
    (h : start ≠ [] ∧ Apart quote start) : Apart quote (start ++ rest) := by
  cases start with
  | nil => exact absurd rfl h.1
  | cons c start => exact h.2

theorem readable_quoted (quote : Char) : Readable (Apart quote) (quoted quote) := by
  intro a b r s hr hs h
  simp only [quoted, String.toList_ofList, List.cons_append, List.append_assoc, List.nil_append,
    List.cons.injEq, true_and] at h
  have hread := congrArg (readDoubled? quote) h
  rw [readDoubled?_doubled a.toList r hr, readDoubled?_doubled b.toList s hs, Option.some.injEq,
    Prod.mk.injEq] at hread
  exact ⟨String.toList_inj.1 hread.1, hread.2⟩

theorem readable_flag {on off : String}
    (hdistinct : ∀ r s, Rest r → off.toList ++ r ≠ on.toList ++ s) :
    Readable Rest (fun flag : Bool => if flag then on else off) := by
  rintro (_ | _) (_ | _) r s hr hs heq
  · exact ⟨rfl, List.append_cancel_left heq⟩
  · exact absurd heq (hdistinct r s hr)
  · exact absurd heq.symm (hdistinct s r hs)
  · exact ⟨rfl, List.append_cancel_left heq⟩

namespace Readable

variable {write : α → String}

theorem comp (h : Readable Rest write) {f : β → α} (hf : Function.Injective f) :
    Readable Rest (fun b => write (f b)) := by
  intro a b r s hr hs heq
  obtain ⟨hvalues, hrests⟩ := h (f a) (f b) r s hr hs heq
  exact ⟨hf hvalues, hrests⟩

theorem behind (h : Readable Rest write) (start : String) :
    Readable Rest (fun a => start ++ write a) := by
  intro a b r s hr hs heq
  simp only [String.toList_append, List.append_assoc] at heq
  exact h a b r s hr hs (List.append_cancel_left heq)

theorem injective (h : Readable Rest write) (hend : Rest []) : Function.Injective write := by
  intro a b heq
  exact (h a b [] [] hend hend (congrArg (·.toList ++ []) heq)).1

theorem mono {Narrow : List Char → Prop} (h : Readable Rest write)
    (hrest : ∀ r, Narrow r → Rest r) : Readable Narrow write :=
  fun a b r s hr hs heq => h a b r s (hrest r hr) (hrest s hs) heq

theorem option (h : Readable Rest write) {absent : String}
    (hdistinct : ∀ a r s, Rest r → absent.toList ++ r ≠ (write a).toList ++ s) :
    Readable Rest (fun o : Option α => o.elim absent write) := by
  rintro (_ | a) (_ | b) r s hr hs heq
  · exact ⟨rfl, List.append_cancel_left heq⟩
  · exact absurd heq (hdistinct b r s hr)
  · exact absurd heq.symm (hdistinct a s r hs)
  · obtain ⟨rfl, hrests⟩ := h a b r s hr hs heq
    exact ⟨rfl, hrests⟩

theorem sum (h : Readable Rest write) {other : β → String} (hother : Readable Rest other)
    (hdistinct : ∀ a b r s, (write a).toList ++ r ≠ (other b).toList ++ s) :
    Readable Rest (Sum.elim write other) := by
  rintro (a | b) (a' | b') r s hr hs heq
  · obtain ⟨rfl, hrests⟩ := h a a' r s hr hs heq
    exact ⟨rfl, hrests⟩
  · exact absurd heq (hdistinct a b' r s)
  · exact absurd heq.symm (hdistinct a' b s r)
  · obtain ⟨rfl, hrests⟩ := hother b b' r s hr hs heq
    exact ⟨rfl, hrests⟩

theorem pair {Between : List Char → Prop} {first : α → String} {second : β → String}
    (hfirst : Readable Between first) (hsecond : Readable Rest second)
    (hbetween : ∀ b r, Rest r → Between ((second b).toList ++ r)) :
    Readable Rest (fun entry : α × β => first entry.1 ++ second entry.2) := by
  rintro ⟨a, b⟩ ⟨a', b'⟩ r s hr hs heq
  simp only [String.toList_append, List.append_assoc] at heq
  obtain ⟨rfl, hbehind⟩ := hfirst _ _ _ _ (hbetween b r hr) (hbetween b' s hs) heq
  obtain ⟨rfl, hrests⟩ := hsecond _ _ _ _ hr hs hbehind
  exact ⟨rfl, hrests⟩

/-- Joined lists with the separators of a family. Which of them it is shows as soon as there are two
texts to be joined. -/
theorem joined (hwrite : Readable Rest write) {separator : ω → String}
    (hdistinct : ∀ o p u v, (separator o).toList ++ u = (separator p).toList ++ v → o = p)
    (hseparated : ∀ o r, Rest ((separator o).toList ++ r)) {o p : ω} {xs ys : List α}
    (hxs : xs ≠ []) (hys : ys ≠ []) {r s : List Char}
    (hr : Rest r ∧ ∀ o, ¬ (separator o).toList <+: r)
    (hs : Rest s ∧ ∀ o, ¬ (separator o).toList <+: s)
    (h : (Text.joined (separator o) (xs.map write)).toList ++ r =
      (Text.joined (separator p) (ys.map write)).toList ++ s) :
    xs = ys ∧ (1 < xs.length → o = p) ∧ r = s := by
  -- the first texts are the same, and then both lists are at their ends or neither is
  induction xs generalizing ys with
  | nil => exact absurd rfl hxs
  | cons x xs ih =>
    match xs, ys, hys with
    | [], [y], _ =>
      obtain ⟨rfl, hrests⟩ := hwrite x y r s hr.1 hs.1 h
      exact ⟨rfl, fun hlength => absurd hlength (by simp), hrests⟩
    | [], y :: y' :: ys, _ =>
      simp only [List.map_cons, List.map_nil, Text.joined, String.toList_append,
        List.append_assoc] at h
      obtain ⟨-, hend⟩ := hwrite x y _ _ hr.1 (hseparated p _) h
      exact absurd ⟨_, hend.symm⟩ (hr.2 p)
    | x' :: xs, [y], _ =>
      simp only [List.map_cons, List.map_nil, Text.joined, String.toList_append,
        List.append_assoc] at h
      obtain ⟨-, hend⟩ := hwrite x y _ _ (hseparated o _) hs.1 h
      exact absurd ⟨_, hend⟩ (hs.2 o)
    | x' :: xs, y :: y' :: ys, _ =>
      simp only [List.map_cons, Text.joined, String.toList_append, List.append_assoc] at h
      obtain ⟨rfl, hbehind⟩ := hwrite x y _ _ (hseparated o _) (hseparated p _) h
      obtain rfl := hdistinct o p _ _ hbehind
      have hlater : (Text.joined (separator o) ((x' :: xs).map write)).toList ++ r =
          (Text.joined (separator o) ((y' :: ys).map write)).toList ++ s :=
        List.append_cancel_left hbehind
      obtain ⟨hvalues, -, hrests⟩ := ih (List.cons_ne_nil x' xs) (List.cons_ne_nil y' ys) hlater
      exact ⟨congrArg (x :: ·) hvalues, fun _ => rfl, hrests⟩

theorem joined_same (hwrite : Readable Rest write) {separator : String}
    (hseparated : ∀ r, Rest (separator.toList ++ r)) {xs ys : List α} (hxs : xs ≠ [])
    (hys : ys ≠ []) {r s : List Char} (hr : Rest r ∧ ¬ separator.toList <+: r)
    (hs : Rest s ∧ ¬ separator.toList <+: s)
    (h : (Text.joined separator (xs.map write)).toList ++ r =
      (Text.joined separator (ys.map write)).toList ++ s) : xs = ys ∧ r = s := by
  have hfamily := @joined α Unit Rest write hwrite (fun _ => separator) (fun _ _ _ _ _ => rfl)
    (fun _ => hseparated) () () xs ys hxs hys r s ⟨hr.1, fun _ => hr.2⟩ ⟨hs.1, fun _ => hs.2⟩ h
  exact ⟨hfamily.1, hfamily.2.2⟩

end Readable

theorem quoted_injective (quote : Char) : Function.Injective (quoted quote) :=
  (readable_quoted quote).injective nofun

end SchemaLedger.Text
