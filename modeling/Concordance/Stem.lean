/-!
# Stems of Russian words

The Snowball stemmer for Russian. Endings are removed from the region behind the first vowel
of a word, which the algorithm calls RV : a perfective gerund ending, or else a reflexive
ending followed by one of an adjective, verb or noun; then a final vowel, a derivational
ending inside the region R2, and what the tidying step finds.

The region is kept reversed, so that an ending is a front part of it. Of several endings of a
class the longest one counts, and if it may not be removed no shorter one is tried.
-/

namespace Concordance.Stem

/-! ## Letters and regions -/

/-- The vowels that mark the regions. The letter with the diaeresis is not among them. -/
def isVowel (c : Char) : Bool :=
  "аеиоуыэюя".toList.contains c

/-- The number of characters through the first one that satisfies `p`, if there is one. -/
def through? (p : Char → Bool) (s : List Char) : Option Nat :=
  (s.findIdx? p).map (· + 1)

/-- The length of the part in front of RV, which begins behind the first vowel. -/
def regionStart (word : List Char) : Nat :=
  (through? isVowel word).getD word.length

/-- The length of the part in front of R2, which begins behind the second group of a vowel and
a following consonant. -/
def secondStart (word : List Char) : Nat :=
  let position : Option Nat := do
    let a ← through? isVowel word
    let b ← through? (fun c => !isVowel c) (word.drop a)
    let c ← through? isVowel (word.drop (a + b))
    let d ← through? (fun c => !isVowel c) (word.drop (a + b + c))
    return a + b + c + d
  position.getD word.length

/-! ## Endings -/

/-- A class of endings : those that are removed wherever they stand, and those that must
follow one of the letters а and я. -/
structure Endings where
  /-- Endings removed wherever they stand. -/
  free : List String
  /-- Endings removed only behind а or я. -/
  bound : List String

/-- Perfective gerunds. -/
def gerund : Endings where
  free := ["ив", "ивши", "ившись", "ыв", "ывши", "ывшись"]
  bound := ["в", "вши", "вшись"]

/-- Adjectives. -/
def adjective : Endings where
  free := ["ее", "ие", "ые", "ое", "ими", "ыми", "ей", "ий", "ый", "ой", "ем", "им", "ым", "ом",
    "его", "ого", "ему", "ому", "их", "ых", "ую", "юю", "ая", "яя", "ою", "ею"]
  bound := []

/-- Participles, in front of the ending of an adjective. -/
def participle : Endings where
  free := ["ивш", "ывш", "ующ"]
  bound := ["ем", "нн", "вш", "ющ", "щ"]

/-- Reflexive verbs. -/
def reflexive : Endings where
  free := ["ся", "сь"]
  bound := []

/-- Verbs. -/
def verb : Endings where
  free := ["ила", "ыла", "ена", "ейте", "уйте", "ите", "или", "ыли", "ей", "уй", "ил", "ыл", "им",
    "ым", "ен", "ило", "ыло", "ено", "ят", "ует", "уют", "ит", "ыт", "ены", "ить", "ыть", "ишь",
    "ую", "ю"]
  bound := ["ла", "на", "ете", "йте", "ли", "й", "л", "ем", "н", "ло", "но", "ет", "ют", "ны",
    "ть", "ешь", "нно"]

/-- Nouns. -/
def noun : Endings where
  free := ["а", "ев", "ов", "ие", "ье", "е", "иями", "ями", "ами", "еи", "ии", "и", "ией", "ей",
    "ой", "ий", "й", "иям", "ям", "ием", "ем", "ам", "ом", "о", "у", "ах", "иях", "ях", "ы", "ь",
    "ию", "ью", "ю", "ия", "ья", "я"]
  bound := []

/-- The reversed region without a reversed ending, if it has it. -/
def dropEnding? (ending : List Char) (region : List Char) : Option (List Char) :=
  if ending.isPrefixOf region then some (region.drop ending.length) else none

/-- The longest of `endings` that the reversed region has. -/
def longest? (endings : List String) (region : List Char) : Option (List Char) :=
  (endings.map (·.toList.reverse)).foldl (fun best e =>
    if e.isPrefixOf region && decide ((best.elim 0 List.length) < e.length) then some e else best)
    none

/-- Remove the longest ending of a class from the reversed region. -/
def remove? (endings : Endings) (region : List Char) : Option (List Char) := do
  let ending ← longest? (endings.free ++ endings.bound) region
  let rest := region.drop ending.length
  if endings.free.contains (String.ofList ending.reverse) then return rest
  match rest with
  | 'а' :: _ => return rest
  | 'я' :: _ => return rest
  | _ => none

/-- Remove an ending if there is one. -/
def remove (endings : Endings) (region : List Char) : List Char :=
  (remove? endings region).getD region

/-! ## The steps -/

/-- An adjective ending together with the participle ending in front of it. -/
def removeAdjectival? (region : List Char) : Option (List Char) :=
  (remove? adjective region).map (remove participle)

/-- The first step : the ending of a gerund, or else those of a reflexive form and of an
adjective, verb or noun. -/
def removeInflection (region : List Char) : List Char :=
  match remove? gerund region with
  | some rest => rest
  | none =>
    let rest := remove reflexive region
    ((removeAdjectival? rest).orElse fun _ =>
      (remove? verb rest).orElse fun _ => remove? noun rest).getD rest

/-- The second step : a final и. -/
def removeVowel (region : List Char) : List Char :=
  (dropEnding? ['и'] region).getD region

/-- The third step : a derivational ending that lies behind the first `bound` characters of
the region. -/
def removeDerivation (bound : Nat) (region : List Char) : List Char :=
  match longest? ["ост", "ость"] region with
  | some ending =>
    if bound + ending.length ≤ region.length then region.drop ending.length else region
  | none => region

/-- One н of a final pair. -/
def undouble (region : List Char) : List Char :=
  match region with
  | 'н' :: 'н' :: rest => 'н' :: rest
  | _ => region

/-- The fourth step : a superlative ending and a doubled н, or a soft sign. -/
def tidy (region : List Char) : List Char :=
  match longest? ["ейш", "ейше"] region with
  | some ending => undouble (region.drop ending.length)
  | none =>
    match region with
    | 'ь' :: rest => rest
    | _ => undouble region

/-- The stem of a word. -/
def stemChars (word : List Char) : List Char :=
  let start := regionStart word
  let region := (word.drop start).reverse
  let region := removeVowel (removeInflection region)
  let region := tidy (removeDerivation (secondStart word - start) region)
  word.take start ++ region.reverse

/-- The stem of a word. -/
def stem (word : String) : String :=
  String.ofList (stemChars word.toList)

end Concordance.Stem
