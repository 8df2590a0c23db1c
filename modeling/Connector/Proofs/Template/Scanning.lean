import Connector.Proofs.Template.Edges
import Connector.Template
import Mathlib.Data.List.TakeWhile

/-!
# Tokens of an expression in its output

The tokens of an expression by itself, and of the same characters up to the end of an output.

* `IsEnding` — what may stand behind an expression up to the end of its output.
* `Faces` — the tokens are the same up to the closing bracket, or neither they are an expression nor
  does the output end with its closing bracket.
* `scan_end`, `scan_token`, `scan_fault` — one step of the scanner.
* `scan_between` — both scans face each other, by induction on the steps of the first one.
-/

namespace Connector.Template.Token

variable {w : List Char}

/-! ## The tokens of an output -/

/-- What may stand behind an expression up to the end of its output. -/
def IsEnding (w : List Char) : Prop :=
  w.dropWhile isInsetBlank = ['\x7d', '\x7d'] ∨ w.dropWhile isInsetBlank = ['-', '\x7d', '\x7d']

lemma IsEnding.edges (hw : IsEnding w) : ∀ c ∈ w, c ∈ edges := by
  intro c hc
  rw [← List.takeWhile_append_dropWhile (p := isInsetBlank) (l := w), List.mem_append] at hc
  rcases hc with hc | hc
  · have := List.mem_takeWhile_imp hc
    simp only [isInsetBlank, Bool.or_eq_true, decide_eq_true_eq] at this
    simp only [Token.edges, List.mem_cons]
    tauto
  · rcases hw with hw | hw
    · rw [hw] at hc
      simp only [List.mem_cons, List.not_mem_nil, or_false] at hc
      rcases hc with rfl | rfl <;> decide
    · rw [hw] at hc
      simp only [List.mem_cons, List.not_mem_nil, or_false] at hc
      rcases hc with rfl | rfl | rfl <;> decide

/-- A pair is found in the whole if it is found at its end. -/
lemma hasPair_suffix {a b : Char} {u v : List Char} (hsuffix : u <:+ v)
    (hv : hasPair a b v = false) : hasPair a b u = false := by
  obtain ⟨before, rfl⟩ := hsuffix
  induction before with
  | nil => exact hv
  | cons c before ih =>
    refine ih ?_
    cases hmore : before ++ u with
    | nil => rfl
    | cons d more =>
      rw [List.cons_append, hmore, hasPair, Bool.or_eq_false_iff] at hv
      exact hv.2

/-- **The tokens of an expression and of its output.**  Either the second ones are the first ones
and a closing bracket; or the first ones are none that an expression is made of or leave brackets
open, with `depth` of them open before, and the second ones do not end with the closing bracket. -/
def Faces (depth : Int) (inside whole : List Token) : Prop :=
  whole = inside ++ [.closeOutput] ∨
    ((∃ t ∈ inside, ¬ t.IsInner) ∨ depth + Token.depth inside ≠ 0) ∧
      whole.getLast? ≠ some .closeOutput

/-- One more token in front, on both sides. -/
lemma Faces.cons {depth : Int} {inside whole : List Token} {t : Token} (ht : t.IsInner)
    (h : Faces (depth + t.depthChange) inside whole) :
    Faces depth (t :: inside) (t :: whole) := by
  rcases h with rfl | ⟨hinside, hwhole⟩
  · exact .inl rfl
  · refine .inr ⟨?_, ?_⟩
    · refine hinside.imp ?_ fun h => ?_
      · rintro ⟨u, hu, hinner⟩
        exact ⟨u, List.mem_cons_of_mem _ hu, hinner⟩
      · rw [depth_cons]
        omega
    · rw [List.getLast?_cons]
      cases hlast : whole.getLast? with
      | none =>
        rintro ⟨⟩
        exact ht
      | some u =>
        rw [hlast] at hwhole
        exact hwhole

lemma faces_faults {depth : Int} {t t' : Token} (ht : t.IsFault) (ht' : t'.IsFault) :
    Faces depth [t] [t'] := by
  obtain ⟨why, rfl⟩ := ht
  obtain ⟨why', rfl⟩ := ht'
  refine .inr ⟨.inl ⟨_, List.mem_singleton.mpr rfl, id⟩, ?_⟩
  rintro ⟨⟩

lemma scan_nil (fuel : Nat) (place : Place) : scan fuel place [] = [] := by
  cases fuel with
  | zero => rfl
  | succ fuel =>
    cases place with
    | text start => cases start <;> rfl
    | inset ends depth => rfl

/-- Blanks in an inset do not matter. -/
lemma scan_inset_congr {x y : List Char} (h : x.dropWhile isInsetBlank = y.dropWhile isInsetBlank)
    (fuel : Nat) (ends : Option Inset) (depth : Int) :
    scan fuel (.inset ends depth) x = scan fuel (.inset ends depth) y := by
  cases fuel with
  | zero => rfl
  | succ fuel => rw [scan, scan, h]

/-- A bracket that ends the inset. -/
lemma scan_end {ends : Option Inset} {depth : Int} {c : Char} {x rest : List Char} {t : Token}
    {trim : Trim} (hc : isInsetBlank c = false)
    (hend : insetEnd? ends depth (c :: x) = some (t, trim, rest)) (fuel : Nat) :
    scan (fuel + 1) (.inset ends depth) (c :: x) = t :: scan fuel (.text trim) rest := by
  rw [scan, List.dropWhile_cons_of_neg (by simp [hc])]
  simp only [hend]

/-- A fault ends the tokens. -/
lemma scan_fault {ends : Option Inset} {depth : Int} {c : Char} {x rest : List Char} {t : Token}
    (hc : isInsetBlank c = false) (hend : insetEnd? ends depth (c :: x) = none)
    (hread : readToken (c :: x) = (t, rest)) (ht : t.IsFault) (fuel : Nat) :
    scan (fuel + 1) (.inset ends depth) (c :: x) = [t] := by
  obtain ⟨why, rfl⟩ := ht
  rw [scan, List.dropWhile_cons_of_neg (by simp [hc])]
  simp only [hend, hread]

/-- A token inside the inset. -/
lemma scan_token {ends : Option Inset} {depth : Int} {c : Char} {x rest : List Char} {t : Token}
    (hc : isInsetBlank c = false) (hend : insetEnd? ends depth (c :: x) = none)
    (hread : readToken (c :: x) = (t, rest)) (ht : t.IsInner) (fuel : Nat) :
    scan (fuel + 1) (.inset ends depth) (c :: x) =
      t :: scan fuel (.inset ends (depth + t.depthChange)) rest := by
  rw [scan, List.dropWhile_cons_of_neg (by simp [hc])]
  simp only [hend, hread]
  cases t with
  | fault why => cases ht
  | _ => rfl

lemma insetEnd?_none (depth : Int) (cs : List Char) : insetEnd? none depth cs = none := by
  unfold insetEnd?
  split <;> rfl

lemma scan_brace (fuel : Nat) (depth : Int) :
    scan (fuel + 1) (.inset none depth) ['\x7d'] = [.sign .closeBrace] := by
  rw [scan_token (t := .sign .closeBrace) rfl (insetEnd?_none depth _) rfl trivial, scan_nil]

/-- Inside brackets the braces that end an output are signs. -/
lemma scan_ending_deep (hw : IsEnding w) {depth : Int} (hdepth : depth ≠ 0) (fuel : Nat) :
    .closeOutput ∉ scan fuel (.inset (some .output) depth) w := by
  have hlast : ∀ fuel depth, .closeOutput ∉ scan fuel (.inset (some .output) depth) ['\x7d'] := by
    intro fuel depth
    cases fuel with
    | zero => simp [scan]
    | succ fuel =>
      have hend : insetEnd? (some .output) depth ['\x7d'] = none := by
        unfold insetEnd?
        split <;> rfl
      rw [scan_token (t := .sign .closeBrace) rfl hend rfl trivial, scan_nil]
      decide
  have hbraces : ∀ fuel, ∀ depth : Int, depth ≠ 0 →
      .closeOutput ∉ scan fuel (.inset (some .output) depth) ['\x7d', '\x7d'] := by
    intro fuel depth hdepth
    cases fuel with
    | zero => simp [scan]
    | succ fuel =>
      rw [scan_token (t := .sign .closeBrace) rfl (if_pos hdepth) rfl trivial]
      exact List.not_mem_cons_of_ne_of_not_mem (by decide) (hlast fuel _)
  rcases hw with hw | hw
  · rw [scan_inset_congr (y := ['\x7d', '\x7d']) (by rw [hw]; rfl)]
    exact hbraces fuel depth hdepth
  · rw [scan_inset_congr (y := ['-', '\x7d', '\x7d']) (by rw [hw]; rfl)]
    cases fuel with
    | zero => simp [scan]
    | succ fuel =>
      rw [scan_token (t := .sign .minus) rfl (if_pos hdepth) rfl trivial]
      refine List.not_mem_cons_of_ne_of_not_mem (by decide) (hbraces fuel _ ?_)
      simpa [depthChange] using hdepth

/-- Outside of brackets the ending is the closing bracket. -/
lemma scan_ending (hw : IsEnding w) (fuel : Nat) :
    scan (fuel + 1) (.inset (some .output) 0) w = [.closeOutput] := by
  rcases hw with hw | hw
  · rw [scan_inset_congr (y := ['\x7d', '\x7d']) (by rw [hw]; rfl), scan_end rfl rfl, scan_nil]
  · rw [scan_inset_congr (y := ['-', '\x7d', '\x7d']) (by rw [hw]; rfl), scan_end rfl rfl, scan_nil]

lemma IsEnding.eq_braces {x : List Char} (hw : IsEnding ('\x7d' :: x)) : x = ['\x7d'] := by
  rcases hw with hw | hw
  · exact (List.cons.inj hw).2
  · exact absurd (List.cons.inj hw).1 (by decide)

/-- An output ends too early at a brace that has the first of the two at its side. -/
lemma insetEnd?_early {depth : Int} {c : Char} {x : List Char} (hw : IsEnding w)
    (hpair : hasPair '\x7d' '\x7d' (c :: x) = false)
    (hminus : (c :: x).getLast? = some '-' → ∃ d, w.head? = some d ∧ isInsetBlank d)
    {token : Token} {trim : Trim} {rest : List Char}
    (h : insetEnd? (some .output) depth (c :: (x ++ w)) = some (token, trim, rest)) :
    depth = 0 ∧ token = .closeOutput ∧ rest = ['\x7d'] ∧
      (c :: x = ['\x7d'] ∨ c :: x = ['-', '\x7d']) := by
  unfold insetEnd? at h
  split at h
  · cases h
  · next hdepth =>
    obtain ⟨p, hp, h⟩ := Option.map_eq_some_iff.mp h
    cases h
    refine ⟨by omega, rfl, ?_⟩
    unfold outputEnd? at hp
    split at hp
    · next heq =>
      cases hp
      obtain ⟨rfl, htail⟩ := List.cons.inj heq
      match x, htail with
      | [], htail =>
        obtain ⟨d, hd, hblank⟩ := hminus rfl
        rw [show w = _ from htail] at hd
        cases hd
        cases hblank
      | [d], htail =>
        obtain ⟨rfl, hrest⟩ := List.cons.inj htail
        rw [show w = _ from hrest] at hw
        exact ⟨hw.eq_braces, .inr rfl⟩
      | d :: e :: x, htail =>
        obtain ⟨rfl, hrest⟩ := List.cons.inj htail
        obtain ⟨rfl, -⟩ := List.cons.inj hrest
        simp [hasPair] at hpair
    · next heq =>
      cases hp
      obtain ⟨rfl, htail⟩ := List.cons.inj heq
      match x, htail with
      | [], htail =>
        rw [show w = _ from htail] at hw
        exact ⟨hw.eq_braces, .inl rfl⟩
      | d :: x, htail =>
        obtain ⟨rfl, -⟩ := List.cons.inj htail
        simp [hasPair] at hpair
    · cases hp

/-- The brace that is left of an output that ends too early does not end it. -/
lemma faces_early {cs : List Char} (hcs : cs = ['\x7d'] ∨ cs = ['-', '\x7d']) {fuel fuel' : Nat}
    (hfuel : cs.length ≤ fuel) (hfuel' : 0 < fuel') (trim : Trim) :
    Faces 0 (scan fuel (.inset none 0) cs)
      (.closeOutput :: scan fuel' (.text trim) ['\x7d']) := by
  refine .inr ⟨.inr ?_, ?_⟩
  · rcases hcs with rfl | rfl
    · obtain ⟨fuel, rfl⟩ : ∃ n, fuel = n + 1 := ⟨fuel - 1, by simp at hfuel; omega⟩
      rw [scan_brace]
      decide
    · obtain ⟨fuel, rfl⟩ : ∃ n, fuel = n + 2 := ⟨fuel - 2, by simp at hfuel; omega⟩
      rw [scan_token (t := .sign .minus) rfl (insetEnd?_none 0 _) rfl trivial, scan_brace]
      decide
  · obtain ⟨fuel', rfl⟩ : ∃ n, fuel' = n + 1 := ⟨fuel' - 1, by omega⟩
    have hplain : scan (fuel' + 1) (.text trim) ['\x7d'] = [.plain "\x7d"] := by
      cases trim <;> rfl
    rw [hplain]
    decide

/-- **Scanning an expression by itself and in its output.**  No two braces stand in it, and no minus
sign at its end that would belong to the closing bracket. -/
theorem scan_between (hw : IsEnding w) (fuel fuel' : Nat) (depth : Int) (s : List Char)
    (hfuel : s.length < fuel) (hfuel' : (s ++ w).length < fuel')
    (hpair : hasPair '\x7d' '\x7d' s = false)
    (hminus : s.getLast? = some '-' → ∃ d, w.head? = some d ∧ isInsetBlank d) :
    Faces depth (scan fuel (.inset none depth) s)
      (scan fuel' (.inset (some .output) depth) (s ++ w)) := by
  induction fuel generalizing fuel' depth s with
  | zero => omega
  | succ fuel ih =>
    obtain ⟨fuel', rfl⟩ : ∃ n, fuel' = n + 1 := ⟨fuel' - 1, by omega⟩
    cases hs : s.dropWhile isInsetBlank with
    | nil =>
      have hdrop : (s ++ w).dropWhile isInsetBlank = w.dropWhile isInsetBlank := by
        rw [List.dropWhile_append, hs]
        rfl
      rw [scan_inset_congr (y := []) hs, scan_nil, scan_inset_congr hdrop]
      by_cases hdepth : depth = 0
      · subst hdepth
        exact .inl (scan_ending hw fuel')
      · refine .inr ⟨.inr (by simpa using hdepth), fun h => ?_⟩
        exact scan_ending_deep hw hdepth _ (List.mem_of_getLast? h)
    | cons c x =>
      have hsuffix : c :: x <:+ s := hs ▸ List.dropWhile_suffix _
      have hc : isInsetBlank c = false := by
        have := List.head?_dropWhile_not isInsetBlank s
        simpa [hs] using this
      have hdrop : (s ++ w).dropWhile isInsetBlank = (c :: (x ++ w)).dropWhile isInsetBlank := by
        rw [List.dropWhile_append, hs, List.dropWhile_cons_of_neg (by simp [hc])]
        rfl
      have hpair := hasPair_suffix hsuffix hpair
      have hlast : (c :: x).getLast? = s.getLast? := by
        obtain ⟨before, rfl⟩ := hsuffix
        simp [List.getLast?_cons]
      have hlength := hsuffix.length_le
      rw [← hlast] at hminus
      rw [scan_inset_congr (y := c :: x) (by rw [hs, List.dropWhile_cons_of_neg (by simp [hc])]),
        scan_inset_congr hdrop]
      have hnone := insetEnd?_none depth (c :: x)
      cases hend : insetEnd? (some .output) depth (c :: (x ++ w)) with
      | some p =>
        obtain ⟨token, trim, rest⟩ := p
        obtain ⟨rfl, rfl, rfl, hx⟩ := insetEnd?_early hw hpair hminus hend
        simp only [List.length_append, List.length_cons] at hlength hfuel'
        rw [scan_end hc hend]
        exact faces_early hx (by simp only [List.length_cons]; omega) (by omega) trim
      | none =>
        rcases hread : readToken (c :: x) with ⟨t, rest⟩
        rcases hreadw : readToken (c :: (x ++ w)) with ⟨t', rest'⟩
        have hextends := readToken_append hw.edges c x
        have hinner := readToken_inner (c :: x)
        have hrest : rest <:+ x := by simpa [hread] using readToken_suffix c x
        rw [List.cons_append, hreadw] at hextends
        rw [hread] at hextends hinner
        rcases hextends with heq | ⟨hfault, hfault'⟩
        · cases heq
          rcases hinner with hfault | hinner
          · rw [scan_fault hc hnone hread hfault, scan_fault hc hend hreadw hfault]
            exact faces_faults hfault hfault
          · rw [scan_token hc hnone hread hinner, scan_token hc hend hreadw hinner]
            have hrest' : rest <:+ c :: x := hrest.trans (List.suffix_cons c x)
            have := hrest.length_le
            refine .cons hinner
              (ih fuel' _ rest ?_ ?_ (hasPair_suffix hrest' hpair) fun h => hminus ?_)
            · simp only [List.length_cons] at hlength
              omega
            · simp only [List.length_append, List.length_cons] at hlength hfuel' ⊢
              omega
            · obtain ⟨before, hbefore⟩ := hrest'
              rw [← hbefore, List.getLast?_append, h]
              rfl
        · rw [scan_fault hc hnone hread hfault, scan_fault hc hend hreadw hfault']
          exact faces_faults hfault hfault'

end Connector.Template.Token
