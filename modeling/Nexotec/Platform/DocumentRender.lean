/-
The HTML of a document (`app/platform/services/document_render.py`, `format_currency_chf` of
`app/core/i18n.py`).

A page is written as its parts: the markup of the source, and the texts put into it.  `_STYLE` is one
style sheet.

* `page`, `composeHtml` — `_compose_html`.
-/
import Nexotec.Lib.Html
import Nexotec.Sales.Document
import Nexotec.Vehicle.Identification

namespace Nexotec.DocumentRender

open Html
open Identification (strip upper Unicode)

/-! ### What is printed -/

structure KeyValueRow where
  label : Str
  value : Str

structure DocumentLine where
  label : Str
  amount : Decimal
  style : LineStyle

inductive DocumentBlock where
  | keyValue (heading : Option Str) (rows : List KeyValueRow) (boxed : Bool)
  | paragraph (text : Str)
  | lineItems (lines : List DocumentLine)
  | signature (labels : List Str)

structure ContentDefinition where
  title : Str
  metadata : Option (List KeyValueRow)
  addressee : Option (List Str)
  blocks : List DocumentBlock

structure Dealership where
  legalName : Str
  tradeName : Option Str
  street : Str
  houseNumber : Str
  postalCode : Str
  locality : Str
  phone : Str
  logoUrl : Option Str
  brandPrimaryColor : Str

structure Location where
  name : Str
  addressStreet : Option Str
  addressHouseNumber : Option Str
  addressPostalCode : Option Str
  addressLocality : Option Str

structure DocumentTemplate where
  headerNote : SwissLanguage → Option Str
  footerText : SwissLanguage → Option Str

/-- The arguments of `_compose_html`. -/
structure Args where
  dealership : Dealership
  template : Option DocumentTemplate
  location : Option Location
  language : SwissLanguage
  content : ContentDefinition

/-- `_STYLE`, as far as it is read. -/
structure StyleSheet where
  text : Str
  clean : Clean text
  plain : '<' ∉ text

def given (s : Option Str) : Option Str := s.filter (· ≠ [])

/-! ### Amounts -/

/-- The amount in hundredths, half to even. -/
def cents (amount : Decimal) : ℤ :=
  let low := ⌊amount * 100⌋
  let rest := amount * 100 - low
  if rest < 1 / 2 ∨ rest = 1 / 2 ∧ low % 2 = 0 then low else low + 1

/-- `format_number_ch`, on the digits from the last. -/
def thousands : Str → Str
  | a :: b :: c :: d :: rest => a :: b :: c :: '\'' :: thousands (d :: rest)
  | s => s

def formatCurrencyChf (amount : Decimal) : Str :=
  let n := (cents amount).natAbs
  (if cents amount < 0 then "− ".toList else []) ++ "CHF ".toList ++
    (thousands (Nat.toDigits 10 (n / 100)).reverse).reverse ++
    ['.', Nat.digitChar (n % 100 / 10), Nat.digitChar (n % 10)]

/-- `quantize` keeps to 28 digits. -/
def fits (amount : Decimal) : Bool := (cents amount).natAbs < 10 ^ 28

/-! ### The parts of a page -/

def esc : Str → Part := .text

theorem after_toList {s : Str} (h : after .data s = .data) : after .data (String.ofList s).toList = .data := by
  rwa [String.toList_ofList]

theorem clean_toList {s : Str} (h : Clean s) : Clean (String.ofList s).toList := by
  rwa [String.toList_ofList]

-- `s.toList` of a literal is slow to evaluate, its characters are not
def m (s : String) (back : after .data s.toList = .data := by exact after_toList rfl)
    (clean : Clean s.toList := by exact clean_toList (by decide)) : Part :=
  .markup ⟨s.toList, back, clean⟩

def renderKeyValueBlock (heading : Option Str) (rows : List KeyValueRow) (boxed : Bool) : List Part :=
  (if boxed then m "<div class=\"doc-kv boxed\">" else m "<div class=\"doc-kv\">") ::
    (given heading).toList.flatMap (fun heading =>
      [m "<div class=\"doc-kv-heading\">", esc heading, m "</div>"]) ++
    rows.flatMap (fun row => [m "<div class=\"doc-kv-row\"><span>", esc row.label, m "</span><b>",
      esc row.value, m "</b></div>"]) ++ [m "</div>"]

def renderParagraph (text : Str) : List Part :=
  [m "<div class=\"doc-paragraph\">", esc text, m "</div>"]

def lineOpen : LineStyle → Part
  | .normal => m "<div class=\"doc-line normal\"><span>"
  | .sub => m "<div class=\"doc-line sub\"><span>"
  | .total => m "<div class=\"doc-line total\"><span>"
  | .grand => m "<div class=\"doc-line grand\"><span>"

def renderLine (line : DocumentLine) : List Part :=
  [lineOpen line.style, esc line.label, m "</span><span class=\"amount\">",
    esc (formatCurrencyChf line.amount), m "</span></div>"]

def renderBlock : DocumentBlock → List Part
  | .keyValue heading rows boxed => renderKeyValueBlock heading rows boxed
  | .paragraph text => renderParagraph text
  | .lineItems lines => m "<div class=\"doc-lines\">" :: lines.flatMap renderLine ++ [m "</div>"]
  | .signature labels => m "<div class=\"doc-sign\">" ::
      labels.flatMap (fun label => [m "<div><div class=\"doc-sign-line\"></div><span>", esc label,
        m "</span></div>"]) ++ [m "</div>"]

/-- `"<br>".join` -/
def joinLines : List Str → List Part
  | [] => []
  | line :: lines => esc line :: lines.flatMap fun line => [m "<br>", esc line]

def renderAddressee (addressee : Option (List Str)) : List Part :=
  addressee.toList.flatMap fun lines =>
    m "<div class=\"doc-to\">" :: joinLines lines ++ [m "</div>"]

def renderMetadata (metadata : List KeyValueRow) : List Part :=
  if metadata = [] then []
  else m "<div class=\"doc-meta\">" :: metadata.flatMap (fun row =>
    [m "<div class=\"doc-meta-row\"><span>", esc row.label, m "</span><b>", esc row.value,
      m "</b></div>"]) ++ [m "</div>"]

/-- `_HEX_COLOR`; its `$` stands before a last newline too. -/
def hexColor : Str → Bool
  | '#' :: rest => (rest.take 6).length = 6 &&
      (rest.take 6).all (fun c => c.isDigit || "abcdefABCDEF".toList.contains c) &&
      (rest.drop 6 = [] || rest.drop 6 = ['\n'])
  | _ => false

def brandColor (dealership : Dealership) : {color : Str // hexColor color = true} :=
  if h : hexColor dealership.brandPrimaryColor then ⟨_, h⟩ else ⟨"#7C3AED".toList, by decide⟩

def reserved : Str := ['&', '<', '>', '"', '\r', '\x00']

theorem plain_of_hexColor {color : Str} (h : hexColor color = true) :
    ∀ c ∈ color, c ∉ reserved := by
  unfold hexColor at h
  split at h
  · rename_i rest
    simp only [Bool.and_eq_true, Bool.or_eq_true, decide_eq_true_eq, List.all_eq_true] at h
    obtain ⟨⟨-, hhex⟩, hend⟩ := h
    refine List.forall_mem_cons.mpr ⟨by decide, fun c hc hbad => ?_⟩
    rw [← List.take_append_drop 6 rest] at hc
    rcases List.mem_append.mp hc with hc | hc
    · have hnone : ∀ d ∈ reserved, ¬(d.isDigit = true ∨ "abcdefABCDEF".toList.contains d = true) := by
        simp [reserved, Char.isDigit]
      exact hnone c hbad (hhex c hc)
    · rcases hend with hend | hend
      · rw [hend] at hc
        cases hc
      · rw [hend, List.mem_singleton] at hc
        subst hc
        revert hbad
        decide
  · cases h

theorem escape_of_hexColor {color : Str} (h : hexColor color = true) : escape color = color := by
  have hplain := plain_of_hexColor h
  calc escape color = color.flatMap (fun c => [c]) := by
        refine List.flatMap_congr fun c hc => ?_
        have hc := hplain c hc
        simp only [reserved, List.mem_cons, not_or] at hc
        rw [if_neg hc.1, if_neg hc.2.1, if_neg hc.2.2.1]
    _ = color := List.flatMap_singleton' color

def displayName (dealership : Dealership) : Str :=
  (given dealership.tradeName).getD dealership.legalName

def imgSlot : Slot where
  before := "<img src=\"".toList
  behind := " alt=\"\">".toList
  tag := "img".toList
  key := "src".toList
  start := []
  more := [("alt".toList, [])]
  opens := rfl
  inside := rfl
  closes := fun _ => rfl
  back := fun _ => rfl
  clean := by decide

def markStyle : Str :=
  ("width:100%;height:100%;display:flex;align-items:center;justify-content:center;" ++
    "background:").toList

set_option maxRecDepth 4000 in
def markSlot : Slot where
  before := "<div style=\"".toList ++ markStyle
  behind := ">".toList
  tag := "div".toList
  key := "style".toList
  start := markStyle
  more := []
  opens := rfl
  inside := rfl
  closes := fun _ => rfl
  back := fun _ => rfl
  clean := by decide

section

variable (style : StyleSheet) (u : Unicode)

def renderLogo (dealership : Dealership) : List Part :=
  match given dealership.logoUrl with
  | some url => [.value imgSlot url (escape url) rfl]
  | none =>
    let color := brandColor dealership
    [.value markSlot color color (escape_of_hexColor color.2).symm,
      esc (upper u ((displayName dealership).take 1)), m "</div>"]

def letterheadLines (dealership : Dealership) : List Part :=
  [m "<b>", esc (displayName dealership), m "</b><br>", esc dealership.street, m " ",
    esc dealership.houseNumber, m " · ", esc dealership.postalCode, m " ",
    esc dealership.locality, m "<br>", esc dealership.phone]

/-- Two words with a blank between them. -/
def pair (a b : Str) : Str := a ++ ' ' :: b

def footerAddressLines (dealership : Dealership) (location : Option Location) : Part :=
  match location.bind fun l => (given l.addressStreet).map fun street => (l, street) with
  | some (l, street) =>
    let lines := [l.name, strip (pair street (l.addressHouseNumber.getD [])),
      strip (pair (l.addressPostalCode.getD []) (l.addressLocality.getD []))]
    esc (" · ".toList.intercalate (lines.filter (· ≠ [])))
  | none =>
    esc (" · ".toList.intercalate [displayName dealership,
      pair dealership.street dealership.houseNumber, pair dealership.postalCode dealership.locality])

def languageValue : SwissLanguage → Str
  | .de => "de".toList
  | .fr => "fr".toList
  | .it => "it".toList
  | .en => "en".toList

def headBefore (language : SwissLanguage) : Str :=
  "<!doctype html>\n<html lang=\"".toList ++ languageValue language ++
    "\">\n<head><meta charset=\"utf-8\"><style>".toList

def headAfter : Str :=
  "</style></head>\n<body>\n  <div class=\"doc-footer\">\n    ".toList

theorem after_style : after (.raw []) style.text = .raw [] := by
  obtain ⟨text, hclean, hplain⟩ := style
  induction text with
  | nil => rfl
  | cons c text ih =>
    obtain ⟨hc, hclean⟩ := List.forall_mem_cons.mp hclean
    simp only [List.mem_cons, not_or] at hplain
    have hstep : (step (.raw []) c).1 = .raw [] := by
      unfold step
      rw [if_pos hc.2]
      simp [core, Ne.symm hplain.1]
    rw [after, List.foldl_cons, hstep]
    exact ih hclean hplain.2

set_option maxRecDepth 4000 in
def head (language : SwissLanguage) : Part :=
  .markup ⟨headBefore language ++ style.text ++ headAfter, by
    have hbefore : after .data (headBefore language) = .raw [] := by cases language <;> rfl
    have hraw := after_style style
    unfold after at hbefore hraw ⊢
    rw [List.foldl_append, List.foldl_append, hbefore, hraw]
    rfl, by
    have hbefore : Clean (headBefore language) := by cases language <;> decide
    have hafter : Clean headAfter := by decide
    exact List.forall_mem_append.mpr ⟨List.forall_mem_append.mpr ⟨hbefore, style.clean⟩, hafter⟩⟩

/-- `_template_field` -/
def templateField (a : Args) (field : DocumentTemplate → SwissLanguage → Option Str) : Option Str :=
  given (a.template.bind fun template => field template a.language)

def page (a : Args) : List Part :=
  head style a.language ::
    (templateField a DocumentTemplate.footerText).toList.flatMap
      (fun text => [m "<div>", esc text, m "</div>"]) ++
    [m "\n    <div>", footerAddressLines a.dealership a.location, m "</div>\n  </div>\n  <div class=\"doc-head\">\n    ",
      m "<div class=\"doc-dealer\">\n      <div class=\"doc-logo\">"] ++
    renderLogo u a.dealership ++ [m "</div>\n      <div>"] ++ letterheadLines a.dealership ++
    [m "</div>\n    </div>\n    "] ++ renderMetadata (a.content.metadata.getD []) ++
    [m "\n  </div>\n  "] ++
    (templateField a DocumentTemplate.headerNote).toList.flatMap renderParagraph ++ [m "\n  "] ++
    renderAddressee a.content.addressee ++
    [m "\n  <h1 class=\"doc-title\">", esc a.content.title, m "</h1>\n  "] ++
    a.content.blocks.flatMap renderBlock ++ [m "\n</body>\n</html>"]

def DocumentBlock.fits : DocumentBlock → Bool
  | .lineItems lines => lines.all fun line => DocumentRender.fits line.amount
  | _ => true

/-- `none` is the `InvalidOperation` of an amount. -/
def composeHtml (a : Args) : Option Str :=
  if a.content.blocks.all DocumentBlock.fits then some (html (page style u a)) else none

/-! ### The shape of a page -/

inductive BlockShape where
  | keyValue (heading : Bool) (rows : ℕ) (boxed : Bool)
  | paragraph
  | lineItems (styles : List LineStyle)
  | signature (labels : ℕ)

def blockShape : DocumentBlock → BlockShape
  | .keyValue heading rows boxed => .keyValue (given heading).isSome rows.length boxed
  | .paragraph _ => .paragraph
  | .lineItems lines => .lineItems (lines.map DocumentLine.style)
  | .signature labels => .signature labels.length

/-- Which optional parts are there, and how many of the others. -/
structure Shape where
  language : SwissLanguage
  headerNote : Bool
  footerText : Bool
  logo : Bool
  metadata : ℕ
  addressee : Option ℕ
  blocks : List BlockShape

def shape (a : Args) : Shape where
  language := a.language
  headerNote := (templateField a DocumentTemplate.headerNote).isSome
  footerText := (templateField a DocumentTemplate.footerText).isSome
  logo := (given a.dealership.logoUrl).isSome
  metadata := (a.content.metadata.getD []).length
  addressee := a.content.addressee.map List.length
  blocks := a.content.blocks.map blockShape

/-- A part without its text. -/
def blank : Part → Part
  | .markup m => .markup m
  | .text _ => .text []
  | .value slot _ _ _ => .value slot [] [] rfl

/-- Tags and the names of attributes. -/
def outline (tokens : List Token) : List (Bool × Str × List Str) :=
  tokens.flatMap fun
    | .tag t => [(t.isEnd, t.name, t.attrs.map Prod.fst)]
    | .char _ => []

theorem outline_blank (parts : List Part) : outline (fill (parts.map blank)) = outline (fill parts) := by
  induction parts with
  | nil => rfl
  | cons p parts ih =>
    unfold outline fill at ih ⊢
    rw [List.map_cons, List.flatMap_cons, List.flatMap_cons, List.flatMap_append, List.flatMap_append, ih]
    cases p with
    | markup m => rfl
    | text s => simp [blank, Part.tokens, List.flatMap_map]
    | value slot s shown h => rfl

section

variable {α β : Type} {f : α → List Part} {xs ys : List α}

theorem flatMap_blank {g : α → β} (hf : ∀ x y, g x = g y → (f x).map blank = (f y).map blank)
    (h : xs.map g = ys.map g) : (xs.flatMap f).map blank = (ys.flatMap f).map blank := by
  induction xs generalizing ys with
  | nil => rw [List.map_eq_nil_iff.mp h.symm]
  | cons x xs ih =>
    cases ys with
    | nil => cases h
    | cons y ys =>
      obtain ⟨hxy, hrest⟩ := List.cons.inj h
      rw [List.flatMap_cons, List.flatMap_cons, List.map_append, List.map_append, hf x y hxy, ih hrest]

theorem counted_blank (hf : ∀ x y, (f x).map blank = (f y).map blank) (h : xs.length = ys.length) :
    (xs.flatMap f).map blank = (ys.flatMap f).map blank :=
  flatMap_blank (g := fun _ => ()) (fun x y _ => hf x y) (by rw [List.map_const', List.map_const', h])

theorem optional_blank {x y : Option α} (hf : ∀ x y, (f x).map blank = (f y).map blank)
    (h : x.isSome = y.isSome) : (x.toList.flatMap f).map blank = (y.toList.flatMap f).map blank :=
  counted_blank hf (by cases x <;> cases y <;> simp_all)

end

theorem block_blank {x y : DocumentBlock} (h : blockShape x = blockShape y) :
    (renderBlock x).map blank = (renderBlock y).map blank := by
  cases x with
  | keyValue heading rows boxed =>
    cases y with
    | keyValue heading' rows' boxed' =>
      obtain ⟨hheading, hrows, rfl⟩ := BlockShape.keyValue.inj h
      simp only [renderBlock, renderKeyValueBlock, List.map_append, List.map_cons]
      rw [optional_blank (fun _ _ => rfl) hheading, counted_blank (fun _ _ => rfl) hrows]
    | _ => cases h
  | paragraph text =>
    cases y with
    | paragraph text' => rfl
    | _ => cases h
  | lineItems lines =>
    cases y with
    | lineItems lines' =>
      have hline : ∀ l l' : DocumentLine, l.style = l'.style →
          (renderLine l).map blank = (renderLine l').map blank := fun l l' hstyle => by
        simp only [renderLine, hstyle, List.map_cons]
        rfl
      simp only [renderBlock, List.map_append, List.map_cons]
      rw [flatMap_blank hline (BlockShape.lineItems.inj h)]
    | _ => cases h
  | signature labels =>
    cases y with
    | signature labels' =>
      simp only [renderBlock, List.map_append, List.map_cons]
      rw [counted_blank (fun _ _ => rfl) (BlockShape.signature.inj h)]
    | _ => cases h

theorem joinLines_blank {lines lines' : List Str} (h : lines.length = lines'.length) :
    (joinLines lines).map blank = (joinLines lines').map blank := by
  cases lines with
  | nil => rw [List.eq_nil_of_length_eq_zero h.symm]
  | cons line lines =>
    cases lines' with
    | nil => cases h
    | cons line' lines' =>
      rw [joinLines, joinLines, List.map_cons, List.map_cons, counted_blank (fun _ _ => rfl) (Nat.succ.inj h)]
      rfl

theorem addressee_blank {x y : Option (List Str)} (h : x.map List.length = y.map List.length) :
    (renderAddressee x).map blank = (renderAddressee y).map blank := by
  refine flatMap_blank (g := List.length) (fun lines lines' hlength => ?_) ?_
  · simp only [List.map_append, List.map_cons]
    rw [joinLines_blank hlength]
  · cases x <;> cases y <;> simp_all

theorem metadata_blank {rows rows' : List KeyValueRow} (h : rows.length = rows'.length) :
    (renderMetadata rows).map blank = (renderMetadata rows').map blank := by
  have hnil : rows = [] ↔ rows' = [] := by
    rw [← List.length_eq_zero_iff, h, List.length_eq_zero_iff]
  unfold renderMetadata
  by_cases hrows : rows = []
  · rw [if_pos hrows, if_pos (hnil.mp hrows)]
  · rw [if_neg hrows, if_neg (mt hnil.mpr hrows)]
    simp only [List.map_append, List.map_cons]
    rw [counted_blank (fun _ _ => rfl) h]

theorem logo_blank {d d' : Dealership} (h : (given d.logoUrl).isSome = (given d'.logoUrl).isSome) :
    (renderLogo u d).map blank = (renderLogo u d').map blank := by
  unfold renderLogo
  cases hd : given d.logoUrl <;> cases hd' : given d'.logoUrl
  · rfl
  · rw [hd, hd'] at h
    cases h
  · rw [hd, hd'] at h
    cases h
  · rfl

/-- Pages of one shape differ in their texts only. -/
theorem page_blank {a b : Args} (h : shape a = shape b) :
    (page style u a).map blank = (page style u b).map blank := by
  obtain ⟨hlanguage, hheader, hfooter, hlogo, hmetadata, haddressee, hblocks⟩ := Shape.mk.inj h
  have hfoot (d : Dealership) (l : Option Location) : blank (footerAddressLines d l) = esc [] := by
    unfold footerAddressLines
    split <;> rfl
  simp only [page, List.map_append, List.map_cons, hlanguage, hfoot]
  rw [optional_blank (fun _ _ => rfl) hfooter, optional_blank (fun _ _ => rfl) hheader,
    logo_blank u hlogo, metadata_blank hmetadata, addressee_blank haddressee,
    flatMap_blank (fun _ _ => block_blank) hblocks]
  rfl

/-- `a` yields a document with the markup of its shape, from which each text is read back. -/
def Sealed (a : Args) : Prop :=
  ∀ text ∈ composeHtml style u a, parse text = fill (page style u a) ∧
    ∀ b, shape b = shape a → outline (parse text) = outline (fill (page style u b))

/-- **A logo gives markup.**  A document is as it is meant exactly when no text put into it has a
carriage return or a NUL and no value, such as the URL of the logo, a double quote, or when there is
no document. -/
theorem sealed_iff (a : Args) : Sealed style u a ↔ a.content.blocks.all DocumentBlock.fits = true →
      ∀ p ∈ page style u a, (∀ s ∈ p.strings, Clean s) ∧ p.Unquoted := by
  unfold Sealed composeHtml
  rw [← parse_iff]
  constructor
  · intro h hfits
    exact (h _ (if_pos hfits)).1
  · intro h text htext
    obtain ⟨hfits, hsome⟩ := Option.ite_none_right_eq_some.mp htext
    cases hsome
    refine ⟨h hfits, fun b hshape => ?_⟩
    rw [h hfits, ← outline_blank, ← outline_blank (page style u b), page_blank style u hshape]

end

def noStyle : StyleSheet := ⟨[], by decide, by decide⟩

/-- A dealership with a quote in the URL of its logo. -/
def quotedLogo : Args where
  dealership := ⟨"Garage".toList, none, "Weg".toList, ['1'], "8000".toList, "Bern".toList, ['0'],
    some "x\" onerror=\"y".toList, []⟩
  template := none
  location := none
  language := .de
  content := ⟨"Offerte".toList, none, none, []⟩

/-- What stands after the quote is an attribute. -/
theorem logo_breaks_out : ¬ Sealed noStyle Identification.ascii quotedLogo := by
  intro h
  obtain ⟨hparse, -⟩ := h _ rfl
  have hlogo : (page noStyle Identification.ascii quotedLogo)[5]? =
      some (.value imgSlot "x\" onerror=\"y".toList _ rfl) := rfl
  exact ((parse_iff _).mp hparse _ (List.mem_of_getElem? hlogo)).2 (by decide)

end Nexotec.DocumentRender
