import Concordance.Html.Page

/-!
# Hidden contents

The visible text of a page is found by looking at every text of its tree and at all elements around
it. It is what a walk from the top finds that does not enter hidden elements
(`visibleParts_eq_ite`). So it is the same for trees that are the same once hidden elements are emptied
(`Forest.hollow`), whatever these hold.
-/

namespace Concordance.Html

open Listing Text

namespace Forest

variable {forest other next : Forest} {around : List String} {name : String} {s : List Char}

/-! ## Parts of a forest -/

theorem visibleParts_nil : nil.visibleParts around = [] :=
  rfl

theorem visibleParts_text : (text s next).visibleParts around =
    if around.any isHidden || (trimChars s).isEmpty then next.visibleParts around
    else trimChars s :: next.visibleParts around := by
  cases hhidden : around.any isHidden <;> cases hblank : (trimChars s).isEmpty <;>
    simp [visibleParts, texts, hhidden, hblank]

theorem visibleParts_element {inner : Forest} : (element name inner next).visibleParts around =
    inner.visibleParts (name :: around) ++ next.visibleParts around := by
  simp [visibleParts, texts]

/-- Inside a hidden element nothing is visible, and elsewhere what is found from the top. -/
theorem visibleParts_eq_ite (forest : Forest) (around : List String) :
    forest.visibleParts around = if around.any isHidden then [] else forest.shown := by
  induction forest generalizing around with
  | nil => cases around.any isHidden <;> rfl
  | text s next ih =>
    rw [visibleParts_text, ih, shown]
    cases around.any isHidden <;> rfl
  | element name inner next ihinner ihnext =>
    rw [visibleParts_element, ihinner, ihnext, List.any_cons, shown]
    cases isHidden name <;> cases around.any isHidden <;> rfl

/-! ## Emptied elements -/

/-- A forest with nothing in its hidden elements. -/
def hollow : Forest → Forest
  | nil => nil
  | text s next => text s next.hollow
  | element name inner next =>
    element name (if isHidden name then nil else inner.hollow) next.hollow

theorem shown_hollow (forest : Forest) : forest.hollow.shown = forest.shown := by
  induction forest with
  | nil => rfl
  | text s next ih => rw [hollow, shown, shown, ih]
  | element name inner next ihinner ihnext =>
    rw [hollow, shown, shown, ihnext]
    cases isHidden name with
    | true => rfl
    | false => exact congrArg (· ++ next.shown) ihinner

theorem visibleChars_eq (forest : Forest) : forest.visibleChars = joinWith [' '] forest.shown :=
  congrArg (joinWith [' ']) (visibleParts_eq_ite forest [])

end Forest

/-- The visible text of a tree joins what a walk from the top finds that does not enter hidden
elements; it is the same for every tree, and every page, with the same tree apart from what is inside
such elements. -/
theorem visibleText_top_down (forest : Forest) :
    forest.visibleChars = joinWith [' '] forest.shown ∧
      (∀ other : Forest, other.hollow = forest.hollow → other.visibleChars = forest.visibleChars) ∧
      ∀ page : String, (parse page.toList).rootForest.hollow = forest.hollow →
        visibleText page = String.ofList (joinWith [' '] forest.shown) := by
  have hsame : ∀ other : Forest, other.hollow = forest.hollow →
      other.visibleChars = forest.visibleChars := fun other heq => by
    rw [other.visibleChars_eq, forest.visibleChars_eq, ← other.shown_hollow, heq,
      forest.shown_hollow]
  refine ⟨forest.visibleChars_eq, hsame, fun page heq => ?_⟩
  rw [visibleText, hsame _ heq, forest.visibleChars_eq]

/-- A page with a script, and the same tree with the script empty. -/
theorem visibleText_top_down_cat :
    (parse "<p>Кот<script>мышь</script> спит".toList).rootForest.hollow =
        (Forest.element "head" .nil (.element "body" (.element "p" (.text "Кот".toList
          (.element "script" .nil (.text " спит".toList .nil))) .nil) .nil)).hollow ∧
      visibleText "<p>Кот<script>мышь</script> спит" = "Кот спит" := by
  have hpage : (parse "<p>Кот<script>мышь</script> спит".toList).rootForest.hollow =
      (Forest.element "head" .nil (.element "body" (.element "p" (.text "Кот".toList
        (.element "script" .nil (.text " спит".toList .nil))) .nil) .nil)).hollow := by
    decide +kernel
  obtain ⟨-, -, htext⟩ := visibleText_top_down (.element "head" .nil (.element "body"
    (.element "p" (.text "Кот".toList (.element "script" .nil (.text " спит".toList .nil))) .nil)
      .nil))
  exact ⟨hpage, (htext _ hpage).trans (by decide +kernel)⟩

end Concordance.Html
