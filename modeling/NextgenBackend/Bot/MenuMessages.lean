import Mathlib
import NextgenBackend.Library.Dict
import NextgenBackend.Library.Paging
import NextgenBackend.Shared.Models
import NextgenBackend.Shared.Pricing

namespace NextgenBackend.Responses

open Pricing

def menuUpdating : String := "Our menu is currently being updated. Please check back soon!"

def byCategory (items : List MenuItem) (catMap : Dict (Option Uuid) (List MenuItem)) :
    Dict (Option Uuid) (List MenuItem) :=
  items.foldl (fun catMap item =>
    if !item.isActive || item.isDeleted then catMap
    else catMap.set item.categoryId ((catMap.lookup item.categoryId).getD [] ++ [item])) catMap

def sortedCategories (categories : List MenuCategory) : List MenuCategory :=
  categories.mergeSort fun c d => c.sortOrder ≤ d.sortOrder

def sortedItems (items : List MenuItem) : List MenuItem :=
  items.mergeSort fun i j => i.sortOrder ≤ j.sortOrder

def priceLine (currency : String) (item : MenuItem) : String :=
  "  • " ++ item.name ++ " — " ++ formatCurrency item.priceCents currency

-- None, or the line of a description that is not empty.
def descriptionLine (item : MenuItem) : List String :=
  match item.description with
  | none => []
  | some description => if description = "" then [] else ["    _" ++ description ++ "_"]

def menuResponse (categories : List MenuCategory) (items : List MenuItem) (currency : String) :
    String :=
  if items = [] then menuUpdating
  else
    let catMap := byCategory items .empty
    let lines := (sortedCategories categories).foldl (fun lines cat =>
      let catItems := (catMap.lookup (some cat.id)).getD []
      if catItems = [] then lines
      else (sortedItems catItems).foldl
        (fun lines item => lines ++ [priceLine currency item] ++ descriptionLine item)
        (lines ++ ["\n*" ++ cat.name ++ "*"])) ["📋 *Our Menu*\n"]
    let uncategorized := (catMap.lookup none).getD []
    let lines :=
      if uncategorized = [] then lines
      else uncategorized.foldl (fun lines item => lines ++ [priceLine currency item])
        (lines ++ ["\n*Other*"])
    "\n".intercalate (lines ++ ["\nTo order, just tell me what you'd like! 🍽️"])

def itemUnit (currency : String) (item : MenuItem) : List String :=
  priceLine currency item :: descriptionLine item

def menuSections (categories : List MenuCategory) (items : List MenuItem) (currency : String) :
    List (String × List (List String)) :=
  let catMap := byCategory items
    (categories.foldl (fun catMap cat => catMap.set (some cat.id) []) .empty)
  let sections := (sortedCategories categories).foldl (fun sections cat =>
    let catItems := (catMap.lookup (some cat.id)).getD []
    if catItems = [] then sections
    else sections ++ [("*" ++ cat.name ++ "*", (sortedItems catItems).map (itemUnit currency))]) []
  let uncategorized := (catMap.lookup none).getD []
  if uncategorized = [] then sections
  else sections ++ [("*Other*", uncategorized.map (itemUnit currency))]

def menuHeader : String := "📋 *Our Menu*"

def menuFooter : String := "To order, just tell me what you'd like! 🍽️"

structure Splitter where
  messages : List String
  current : List String
  currentLen : Int

def joined (lines : List String) : String := "\n".intercalate lines

namespace Splitter

def flush (s : Splitter) : Splitter where
  messages := if s.current = [] then s.messages else s.messages ++ [joined s.current]
  current := []
  currentLen := 0

-- Whether something of the given length has to wait for the next message.
def full (s : Splitter) (maxChars len : Int) : Prop :=
  s.current ≠ [] ∧ maxChars < s.currentLen + len

instance (s : Splitter) (maxChars len : Int) : Decidable (s.full maxChars len) :=
  inferInstanceAs (Decidable (_ ∧ _))

def addHeader (maxChars : Int) (header : String) (s : Splitter) : Splitter :=
  let headerLen : Int := header.length + 1
  let s := if s.full maxChars headerLen then s.flush else s
  { s with current := s.current ++ [header], currentLen := s.currentLen + headerLen }

def addUnit (maxChars : Int) (header : String) (s : Splitter) (unit : List String) : Splitter :=
  let unitLen : Int := (joined unit).length + 1
  let s :=
    if s.full maxChars unitLen then
      let contHeader := header ++ " (cont.)"
      { s.flush with current := [contHeader], currentLen := contHeader.length + 1 }
    else s
  { s with current := s.current ++ unit, currentLen := s.currentLen + unitLen }

def addSection (maxChars : Int) (s : Splitter) (content : String × List (List String)) :
    Splitter :=
  content.2.foldl (addUnit maxChars content.1) (s.addHeader maxChars content.1)

def addFooter (maxChars : Int) (s : Splitter) : Splitter :=
  let s := if s.full maxChars (menuFooter.length + 1) then s.flush else s
  flush { s with current := s.current ++ [menuFooter] }

end Splitter

def buildMenuMessages (categories : List MenuCategory) (items : List MenuItem)
    (currency : String) (maxChars : Int) : List String :=
  if items = [] then [menuUpdating]
  else
    let start : Splitter := ⟨[], [menuHeader], menuHeader.length⟩
    let s := (menuSections categories items currency).foldl (Splitter.addSection maxChars) start
    (s.addFooter maxChars).messages

end NextgenBackend.Responses

namespace NextgenBackend.MenuMessages

open Responses Paging

inductive Block where
  | notice
  | header
  | category (category : Option MenuCategory)
  | continued (category : Option MenuCategory)
  | item (item : MenuItem)
  | footer
deriving DecidableEq

def heading : Option MenuCategory → String
  | none => "*Other*"
  | some category => "*" ++ category.name ++ "*"

namespace Block

def item? : Block → Option MenuItem
  | .item i => some i
  | _ => none

def messageLines (currency : String) : Block → List String
  | .notice => [menuUpdating]
  | .header => [menuHeader]
  | .category c => [heading c]
  | .continued c => [heading c ++ " (cont.)"]
  | .item i => itemUnit currency i
  | .footer => [menuFooter]

-- The whole menu sets its sections apart, and describes no item without a category.
def responseLines (currency : String) : Block → List String
  | .notice => [menuUpdating]
  | .header => [menuHeader ++ "\n"]
  | .category c => ["\n" ++ heading c]
  | .continued c => ["\n" ++ heading c]
  | .item i => priceLine currency i :: if i.categoryId = none then [] else descriptionLine i
  | .footer => ["\n" ++ menuFooter]

def width (currency : String) (block : Block) : Nat :=
  (joined (block.messageLines currency)).length + 1

end Block

structure Listing where
  category : Option MenuCategory
  items : List MenuItem

namespace Listing

def blocks (listing : Listing) : List Block :=
  .category listing.category :: listing.items.map .item

def entries (listing : Listing) : List (Entry Block) :=
  ⟨none, .category listing.category⟩ ::
    listing.items.map fun item => ⟨some (.continued listing.category), .item item⟩

end Listing

variable {categories : List MenuCategory} {items : List MenuItem} {currency : String}
  {maxChars : Int}

def onMenu (items : List MenuItem) (category : Option Uuid) : List MenuItem :=
  items.filter fun item => item.isActive && !item.isDeleted && item.categoryId = category

def listing (items : List MenuItem) (category : MenuCategory) : Listing :=
  ⟨some category, sortedItems (onMenu items (some category.id))⟩

-- The categories in order, those without a category last, and none that has nothing to show.
def listings (categories : List MenuCategory) (items : List MenuItem) : List Listing :=
  ((sortedCategories categories).map (listing items) ++
    [Listing.mk none (onMenu items none)]).filter fun listing => listing.items ≠ []

def menuBlocks (categories : List MenuCategory) (items : List MenuItem) : List Block :=
  if items = [] then [.notice]
  else .header :: (listings categories items).flatMap Listing.blocks ++ [.footer]

def menuPages (categories : List MenuCategory) (items : List MenuItem) (currency : String)
    (maxChars : Int) : List (List Block) :=
  if items = [] then [[.notice]]
  else layout maxChars (Block.width currency) ⟨[], [.header], menuHeader.length⟩
    ((listings categories items).flatMap Listing.entries ++ [⟨none, .footer⟩])

def messageText (currency : String) (page : List Block) : String :=
  joined (page.flatMap (Block.messageLines currency))

def responseText (currency : String) (blocks : List Block) : String :=
  joined (blocks.flatMap (Block.responseLines currency))

def shown (blocks : List Block) : List MenuItem := blocks.filterMap Block.item?

theorem lookup_byCategory {catMap : Dict (Option Uuid) (List MenuItem)} {category : Option Uuid} :
    ((byCategory items catMap).lookup category).getD [] =
      (catMap.lookup category).getD [] ++ onMenu items category := by
  unfold byCategory onMenu
  induction items generalizing catMap with
  | nil => simp
  | cons item items ih =>
      rw [List.foldl_cons, ih]
      by_cases hlisted : (!item.isActive || item.isDeleted) = true
      · have hskip : (item.isActive && !item.isDeleted) = false := by
          cases hactive : item.isActive <;> cases hdeleted : item.isDeleted <;>
            simp_all
        simp [hlisted, hskip]
      · have hkeep : (item.isActive && !item.isDeleted) = true := by
          cases hactive : item.isActive <;> cases hdeleted : item.isDeleted <;>
            simp_all
        rw [if_neg hlisted, Dict.lookup_set]
        by_cases hkey : category = item.categoryId
        · subst hkey
          simp [hkeep]
        · simp [hkeep, hkey, Ne.symm hkey]

theorem lookup_empties {catMap : Dict (Option Uuid) (List MenuItem)} {category : Option Uuid}
    (h : (catMap.lookup category).getD [] = []) :
    ((categories.foldl (fun catMap cat => catMap.set (some cat.id) []) catMap).lookup
      category).getD [] = [] := by
  induction categories generalizing catMap with
  | nil => exact h
  | cons cat categories ih =>
      refine ih ?_
      rw [Dict.lookup_set]
      split
      · rfl
      · exact h

theorem sortedItems_eq_nil : sortedItems items = [] ↔ items = [] := by
  rw [← List.length_eq_zero_iff, ← List.length_eq_zero_iff, sortedItems, List.length_mergeSort]

-- Both functions go through the categories in order and pass over those with nothing to show.
theorem foldl_listings {δ : Type} (items : List MenuItem) (f : Listing → List δ) (acc : List δ)
    (categories : List MenuCategory) :
    categories.foldl (fun acc category =>
        if onMenu items (some category.id) = [] then acc
        else acc ++ f (listing items category)) acc =
      acc ++ ((categories.map (listing items)).filter fun l => l.items ≠ []).flatMap f := by
  induction categories generalizing acc with
  | nil => simp
  | cons category categories ih =>
      rw [List.foldl_cons, ih, List.map_cons, List.filter_cons]
      have hiff : (listing items category).items = [] ↔ onMenu items (some category.id) = [] :=
        sortedItems_eq_nil
      by_cases h : onMenu items (some category.id) = []
      · simp [h, hiff.mpr h]
      · simp [h, hiff.not.mpr h]

theorem listings_eq : listings categories items =
    (((sortedCategories categories).map (listing items)).filter fun l => l.items ≠ []) ++
      if onMenu items none = [] then [] else [⟨none, onMenu items none⟩] := by
  unfold listings
  rw [List.filter_append]
  congr 1
  split
  next h => simp [h]
  next h => simp [h]

def Listing.content (currency : String) (listing : Listing) : String × List (List String) :=
  (heading listing.category, listing.items.map (itemUnit currency))

theorem menuSections_eq : menuSections categories items currency =
    (listings categories items).map (Listing.content currency) := by
  have hlookup (category : Option Uuid) : ((byCategory items (categories.foldl
      (fun catMap cat => catMap.set (some cat.id) []) .empty)).lookup category).getD [] =
        onMenu items category := by
    rw [lookup_byCategory, lookup_empties (by simp), List.nil_append]
  unfold menuSections
  simp only [hlookup]
  rw [listings_eq, List.map_append]
  have hfold := foldl_listings items (fun l => [l.content currency]) []
    (sortedCategories categories)
  rw [List.nil_append, ← List.map_eq_flatMap] at hfold
  rw [← hfold]
  split
  · exact (List.append_nil _).symm
  · rfl

theorem categoryId_of_mem_onMenu {item : MenuItem} {category : Option Uuid}
    (h : item ∈ onMenu items category) : item.categoryId = category := by
  have hmem := (List.mem_filter.mp h).2
  simp only [Bool.and_eq_true, decide_eq_true_eq] at hmem
  exact hmem.2

theorem foldl_listing {category : MenuCategory} (lines : List String) :
    (sortedItems (onMenu items (some category.id))).foldl
        (fun lines item => lines ++ [priceLine currency item] ++ descriptionLine item)
        (lines ++ ["\n*" ++ category.name ++ "*"]) =
      lines ++ (listing items category).blocks.flatMap (Block.responseLines currency) := by
  have hitems : (sortedItems (onMenu items (some category.id))).flatMap
      (fun item => [priceLine currency item] ++ descriptionLine item) =
        (listing items category).items.flatMap
          fun item => (Block.item item).responseLines currency := by
    refine List.flatMap_congr fun item hitem => ?_
    have hmem : item ∈ onMenu items (some category.id) :=
      (List.mergeSort_perm _ _).mem_iff.mp hitem
    simp [Block.responseLines, categoryId_of_mem_onMenu hmem]
  simp only [List.append_assoc]
  rw [List.foldl_append_eq_append, ← List.flatMap_def, hitems]
  unfold Listing.blocks
  rw [List.flatMap_cons, List.flatMap_map, List.append_assoc]
  rfl

theorem foldl_uncategorized (lines : List String) :
    (onMenu items none).foldl (fun lines item => lines ++ [priceLine currency item])
        (lines ++ ["\n*Other*"]) =
      lines ++ (Listing.mk none (onMenu items none)).blocks.flatMap
        (Block.responseLines currency) := by
  have hitems : (onMenu items none).flatMap (fun item => [priceLine currency item]) =
      (onMenu items none).flatMap fun item => (Block.item item).responseLines currency := by
    refine List.flatMap_congr fun item hitem => ?_
    simp [Block.responseLines, categoryId_of_mem_onMenu hitem]
  rw [List.foldl_append_eq_append, ← List.flatMap_def, hitems]
  unfold Listing.blocks
  rw [List.flatMap_cons, List.flatMap_map, List.append_assoc]
  rfl

theorem responseLines_menu (sections : List Listing) :
    (Block.header :: sections.flatMap Listing.blocks ++ [Block.footer]).flatMap
        (Block.responseLines currency) =
      ["📋 *Our Menu*\n"] ++
        sections.flatMap (fun l => l.blocks.flatMap (Block.responseLines currency)) ++
        ["\nTo order, just tell me what you'd like! 🍽️"] := by
  rw [List.flatMap_append, List.flatMap_cons, List.flatMap_assoc]
  rfl

theorem menuResponse_eq : menuResponse categories items currency =
    responseText currency (menuBlocks categories items) := by
  have hlookup (category : Option Uuid) :
      ((byCategory items .empty).lookup category).getD [] = onMenu items category := by
    rw [lookup_byCategory, Dict.lookup_empty, Option.getD_none, List.nil_append]
  unfold menuResponse menuBlocks responseText
  split
  next h => rfl
  next h =>
    simp only [hlookup, foldl_listing, foldl_uncategorized]
    rw [foldl_listings items (fun l => l.blocks.flatMap (Block.responseLines currency)),
      listings_eq]
    refine congrArg joined ?_
    rw [responseLines_menu, List.flatMap_append]
    split
    · rw [List.flatMap_nil, List.append_nil]
    · rw [List.flatMap_singleton, List.append_assoc _ _ (List.flatMap _ _)]

def splitter (currency : String) (sheets : Sheets Block) : Splitter where
  messages := sheets.pages.map (messageText currency)
  current := sheets.current.flatMap (Block.messageLines currency)
  currentLen := sheets.used

variable {sheets : Sheets Block} {category : Option MenuCategory} {item : MenuItem}

theorem messageLines_ne_nil (block : Block) : block.messageLines currency ≠ [] := by
  cases block <;> exact List.cons_ne_nil _ _

theorem current_eq_nil : (splitter currency sheets).current = [] ↔ sheets.current = [] := by
  unfold splitter
  rw [List.flatMap_eq_nil_iff]
  constructor
  · intro h
    by_contra hne
    obtain ⟨block, hblock⟩ := List.exists_mem_of_ne_nil _ hne
    exact messageLines_ne_nil block (h block hblock)
  · intro h block hblock
    rw [h] at hblock
    cases hblock

theorem flush_splitter (h : sheets.current ≠ []) : (splitter currency sheets).flush =
    ⟨(sheets.pages ++ [sheets.current]).map (messageText currency), [], 0⟩ := by
  unfold Splitter.flush
  rw [if_neg (current_eq_nil.not.mpr h), List.map_append]
  rfl

abbrev Waits (currency : String) (maxChars : Int) : Sheets Block → Entry Block → Prop :=
  Full maxChars (Block.width currency)

theorem full_splitter (maxChars : Int) (sheets : Sheets Block) (entry : Entry Block) {len : Int}
    (hlen : (entry.block.width currency : Int) = len) :
    (splitter currency sheets).full maxChars len ↔ Waits currency maxChars sheets entry := by
  subst hlen
  exact and_congr current_eq_nil.not Iff.rfl

theorem width_single {block : Block} {line : String}
    (h : block.messageLines currency = [line]) :
    (block.width currency : Int) = line.length + 1 := by
  rw [Block.width, h, joined, String.intercalate_singleton]
  rfl

theorem addHeader_splitter :
    (splitter currency sheets).addHeader maxChars (heading category) =
      splitter currency
        (place maxChars (Block.width currency) sheets ⟨none, .category category⟩) := by
  have hwidth : ((Block.category category).width currency : Int) = (heading category).length + 1 :=
    width_single rfl
  have hiff := full_splitter maxChars sheets ⟨none, .category category⟩ hwidth
  by_cases hfull : Waits currency maxChars sheets ⟨none, .category category⟩
  · rw [place_full hfull]
    simp only [Splitter.addHeader, if_pos (hiff.mpr hfull), flush_splitter hfull.1]
    simp [splitter, Entry.opening, hwidth, Block.messageLines]
  · rw [place_room hfull]
    simp only [Splitter.addHeader, if_neg (hiff.not.mpr hfull)]
    simp [splitter, hwidth, Block.messageLines]

theorem addUnit_splitter :
    (splitter currency sheets).addUnit maxChars (heading category) (itemUnit currency item) =
      splitter currency (place maxChars (Block.width currency) sheets
        ⟨some (.continued category), .item item⟩) := by
  have hwidth : ((Block.item item).width currency : Int) =
      (joined (itemUnit currency item)).length + 1 := rfl
  have hheading : ((Block.continued category).width currency : Int) =
      (heading category ++ " (cont.)").length + 1 := width_single rfl
  have hiff := full_splitter maxChars sheets ⟨some (.continued category), .item item⟩ hwidth
  by_cases hfull : Waits currency maxChars sheets ⟨some (.continued category), .item item⟩
  · rw [place_full hfull]
    simp only [Splitter.addUnit, if_pos (hiff.mpr hfull), flush_splitter hfull.1]
    simp [splitter, Entry.opening, hwidth, hheading, Block.messageLines]
  · rw [place_room hfull]
    simp only [Splitter.addUnit, if_neg (hiff.not.mpr hfull)]
    simp [splitter, hwidth, Block.messageLines]

theorem addSection_splitter {listing : Listing} :
    (splitter currency sheets).addSection maxChars (listing.content currency) =
      splitter currency
        (listing.entries.foldl (place maxChars (Block.width currency)) sheets) := by
  unfold Splitter.addSection Listing.content Listing.entries
  rw [List.foldl_cons, List.foldl_map, List.foldl_map, addHeader_splitter]
  refine List.foldl_hom (splitter currency) ?_
  intro sheets item
  exact addUnit_splitter

theorem addSections_splitter (sections : List Listing) :
    (sections.map (Listing.content currency)).foldl (Splitter.addSection maxChars)
        (splitter currency sheets) =
      splitter currency ((sections.flatMap Listing.entries).foldl
        (place maxChars (Block.width currency)) sheets) := by
  induction sections generalizing sheets with
  | nil => rfl
  | cons listing sections ih =>
      rw [List.map_cons, List.foldl_cons, addSection_splitter, ih, List.flatMap_cons,
        List.foldl_append]

theorem addFooter_splitter : ((splitter currency sheets).addFooter maxChars).messages =
    (place maxChars (Block.width currency) sheets ⟨none, .footer⟩).close.map
      (messageText currency) := by
  have hwidth : (Block.footer.width currency : Int) = menuFooter.length + 1 := width_single rfl
  have hiff := full_splitter maxChars sheets ⟨none, .footer⟩ hwidth
  by_cases hfull : Waits currency maxChars sheets ⟨none, .footer⟩
  · rw [place_full hfull]
    simp only [Splitter.addFooter, if_pos (hiff.mpr hfull), flush_splitter hfull.1]
    simp [Splitter.flush, Sheets.close, Entry.opening, messageText, Block.messageLines]
  · rw [place_room hfull]
    simp only [Splitter.addFooter, if_neg (hiff.not.mpr hfull)]
    simp [splitter, Splitter.flush, Sheets.close, messageText, Block.messageLines]

theorem buildMenuMessages_eq : buildMenuMessages categories items currency maxChars =
    (menuPages categories items currency maxChars).map (messageText currency) := by
  unfold buildMenuMessages menuPages
  split
  · rfl
  · have hstart : (⟨[], [menuHeader], menuHeader.length⟩ : Splitter) =
        splitter currency ⟨[], [.header], menuHeader.length⟩ := rfl
    unfold layout
    rw [menuSections_eq, List.foldl_append]
    simp only [hstart, addSections_splitter]
    exact addFooter_splitter

theorem blocks_entries {listing : Listing} :
    listing.entries.map (·.block) = listing.blocks := by
  unfold Listing.entries Listing.blocks
  rw [List.map_cons, List.map_map]
  rfl

-- The pages hold the blocks of the menu in its order, and repeat nothing but headings.
theorem filterMap_menuPages {γ : Type} {f : Block → Option γ}
    (hcontinued : ∀ category, f (.continued category) = none) :
    (menuPages categories items currency maxChars).flatten.filterMap f =
      (menuBlocks categories items).filterMap f := by
  unfold menuPages menuBlocks
  split
  · rfl
  · have hheading : ∀ entry ∈ (listings categories items).flatMap Listing.entries ++
        [⟨none, .footer⟩], ∀ b ∈ entry.heading, f b = none := by
      intro entry hentry b hb
      rcases List.mem_append.mp hentry with hentry | hentry
      · obtain ⟨listing, -, hentry⟩ := List.mem_flatMap.mp hentry
        rcases List.mem_cons.mp hentry with rfl | hentry
        · cases hb
        · obtain ⟨item, -, rfl⟩ := List.mem_map.mp hentry
          obtain rfl := Option.some.inj hb
          exact hcontinued _
      · obtain rfl := List.mem_singleton.mp hentry
        cases hb
    rw [filterMap_layout hheading, List.map_append, List.map_flatMap, ← List.filterMap_append]
    simp only [blocks_entries]
    rfl

theorem size_append (lines lines' : List String) :
    (joined (lines ++ lines')).length ≤ (joined lines).length + ((joined lines').length + 1) := by
  unfold joined
  by_cases hlines : lines = []
  · subst hlines
    simp only [List.nil_append]
    omega
  · by_cases hlines' : lines' = []
    · subst hlines'
      simp only [List.append_nil]
      omega
    · rw [String.intercalate_append_of_ne_nil hlines hlines', String.length_append,
        String.length_append]
      have hnewline : "\n".length = 1 := rfl
      omega

structure LinesFit (categories : List MenuCategory) (items : List MenuItem) (currency : String)
    (maxChars : Int) : Prop where
  header : menuHeader.length ≤ maxChars
  footer : menuFooter.length ≤ maxChars
  units : ∀ listing ∈ listings categories items, ∀ item ∈ listing.items,
    (joined ((heading listing.category ++ " (cont.)") :: itemUnit currency item)).length ≤ maxChars

theorem heading_fits (hfit : LinesFit categories items currency maxChars) {listing : Listing}
    (h : listing ∈ listings categories items) :
    (heading listing.category).length ≤ maxChars := by
  have hsome : listing.items ≠ [] := by simpa using (List.mem_filter.mp h).2
  obtain ⟨item, hitem⟩ := List.exists_mem_of_ne_nil _ hsome
  have hunit := hfit.units listing h item hitem
  have hlines : itemUnit currency item ≠ [] := List.cons_ne_nil _ _
  unfold joined at hunit
  rw [String.intercalate_cons_of_ne_nil hlines, String.length_append, String.length_append,
    String.length_append] at hunit
  omega

def pageSize (currency : String) (page : List Block) : Nat := (messageText currency page).length

theorem pageSize_append (blocks : List Block) (block : Block) :
    pageSize currency (blocks ++ [block]) ≤ pageSize currency blocks + block.width currency := by
  unfold pageSize messageText
  rw [List.flatMap_append, List.flatMap_singleton]
  exact size_append _ _

theorem pageSize_single {block : Block} {line : String}
    (h : block.messageLines currency = [line]) : pageSize currency [block] = line.length := by
  rw [pageSize, messageText, List.flatMap_singleton, h, joined, String.intercalate_singleton]

theorem entry_fits (hfit : LinesFit categories items currency maxChars) :
    ∀ entry ∈ (listings categories items).flatMap Listing.entries ++ [⟨none, .footer⟩],
      pageSize currency entry.opening ≤ maxChars := by
  intro entry hentry
  rcases List.mem_append.mp hentry with hentry | hentry
  · obtain ⟨listing, hlisting, hentry⟩ := List.mem_flatMap.mp hentry
    rcases List.mem_cons.mp hentry with rfl | hentry
    · have hsize : pageSize currency [.category listing.category] =
          (heading listing.category).length := pageSize_single rfl
      exact (Int.ofNat_inj.mpr hsize).trans_le (heading_fits hfit hlisting)
    · obtain ⟨item, hitem, rfl⟩ := List.mem_map.mp hentry
      have hunit := hfit.units listing hlisting item hitem
      have hopening : messageText currency [.continued listing.category, .item item] =
          joined ((heading listing.category ++ " (cont.)") :: itemUnit currency item) := by
        simp [messageText, Block.messageLines]
      rw [← hopening] at hunit
      exact hunit
  · obtain rfl := List.mem_singleton.mp hentry
    have hsize : pageSize currency [.footer] = menuFooter.length := pageSize_single rfl
    exact (Int.ofNat_inj.mpr hsize).trans_le hfit.footer

theorem menuPages_fit (hfit : LinesFit categories items currency maxChars)
    (hnotice : items = [] → menuUpdating.length ≤ maxChars) :
    ∀ page ∈ menuPages categories items currency maxChars, pageSize currency page ≤ maxChars := by
  unfold menuPages
  split
  next h =>
    intro page hpage
    obtain rfl := List.mem_singleton.mp hpage
    exact hnotice h
  next h =>
    refine layout_fits rfl pageSize_append (entry_fits hfit) ?_
    have hsize : pageSize currency [.header] = menuHeader.length := pageSize_single rfl
    have hcounted : (pageSize currency [.header] : Int) = menuHeader.length := by rw [hsize]
    exact ⟨List.cons_ne_nil _ _, fun _ hpage => absurd hpage List.not_mem_nil,
      hcounted.trans_le hfit.header, hcounted.le⟩

theorem shown_listing {listing : Listing} : shown listing.blocks = listing.items := by
  unfold shown Listing.blocks
  rw [List.filterMap_cons_none rfl, List.filterMap_map]
  exact List.filterMap_some

theorem shown_menuBlocks (h : items ≠ []) :
    shown (menuBlocks categories items) = (listings categories items).flatMap (·.items) := by
  unfold menuBlocks shown
  rw [if_neg h, List.filterMap_append, List.filterMap_cons_none rfl, List.filterMap_flatMap,
    List.filterMap_cons_none rfl, List.filterMap_nil, List.append_nil]
  exact List.flatMap_congr fun listing _ => shown_listing

theorem categoryId_of_listed {listing : Listing} {item : MenuItem}
    (h : listing ∈ listings categories items) (hitem : item ∈ listing.items) :
    item.categoryId = listing.category.map (·.id) := by
  rcases List.mem_append.mp (List.mem_filter.mp h).1 with hmem | hmem
  · obtain ⟨category, -, rfl⟩ := List.mem_map.mp hmem
    exact categoryId_of_mem_onMenu ((List.mergeSort_perm _ _).mem_iff.mp hitem)
  · obtain rfl := List.mem_singleton.mp hmem
    exact categoryId_of_mem_onMenu hitem

theorem nodup_listing {listing : Listing} (hitems : items.Nodup)
    (h : listing ∈ listings categories items) : listing.items.Nodup := by
  rcases List.mem_append.mp (List.mem_filter.mp h).1 with hmem | hmem
  · obtain ⟨category, -, rfl⟩ := List.mem_map.mp hmem
    exact (List.mergeSort_perm _ _).nodup_iff.mpr (hitems.filter _)
  · obtain rfl := List.mem_singleton.mp hmem
    exact hitems.filter _

theorem nodup_categories (items : List MenuItem) (h : (categories.map (·.id)).Nodup) :
    ((listings categories items).map fun l => l.category.map (·.id)).Nodup := by
  have hsorted : ((sortedCategories categories).map (·.id)).Nodup :=
    ((List.mergeSort_perm _ _).map _).nodup_iff.mpr h
  refine List.Nodup.sublist (List.filter_sublist.map _) ?_
  have hids : (sortedCategories categories).map (fun c : MenuCategory => some c.id) =
      ((sortedCategories categories).map (·.id)).map some := by rw [List.map_map]; rfl
  rw [List.map_append, List.map_map]
  change ((sortedCategories categories).map (fun c : MenuCategory => some c.id) ++ [none]).Nodup
  rw [hids]
  exact (hsorted.map fun _ _ => Option.some.inj).append (List.nodup_singleton _) (by simp)

theorem nodup_shown (hcategories : (categories.map (·.id)).Nodup) (hitems : items.Nodup) :
    (shown (menuBlocks categories items)).Nodup := by
  by_cases h : items = []
  · rw [menuBlocks, if_pos h]
    exact List.nodup_nil
  · rw [shown_menuBlocks h, List.nodup_flatMap]
    refine ⟨fun listing hlisting => nodup_listing hitems hlisting, ?_⟩
    have hpairs := List.pairwise_map.mp (nodup_categories items hcategories)
    refine hpairs.imp_of_mem fun {l l'} hl hl' hne => ?_
    refine List.disjoint_left.mpr fun item hitem hitem' => hne ?_
    exact (categoryId_of_listed hl hitem).symm.trans (categoryId_of_listed hl' hitem')

-- A page is made of whole blocks, so an item's lines stay together.
theorem menu_messages_page_menu :
    menuResponse categories items currency = responseText currency (menuBlocks categories items) ∧
    buildMenuMessages categories items currency maxChars =
      (menuPages categories items currency maxChars).map (messageText currency) ∧
    shown (menuPages categories items currency maxChars).flatten =
      shown (menuBlocks categories items) ∧
    ((categories.map (·.id)).Nodup → items.Nodup →
      (shown (menuPages categories items currency maxChars).flatten).Nodup) ∧
    (LinesFit categories items currency maxChars →
      (items = [] → menuUpdating.length ≤ maxChars) →
      ∀ message ∈ buildMenuMessages categories items currency maxChars,
        message.length ≤ maxChars) := by
  have hshown : shown (menuPages categories items currency maxChars).flatten =
      shown (menuBlocks categories items) := filterMap_menuPages fun _ => rfl
  refine ⟨menuResponse_eq, buildMenuMessages_eq, hshown, fun hcategories hitems => ?_,
    fun hfit hnotice message hmessage => ?_⟩
  · rw [hshown]
    exact nodup_shown hcategories hitems
  · rw [buildMenuMessages_eq] at hmessage
    obtain ⟨page, hpage, rfl⟩ := List.mem_map.mp hmessage
    exact menuPages_fit hfit hnotice page hpage

section Examples

def cola : MenuItem where
  id := 1
  businessId := 1
  name := "Cola"
  priceCents := 1550
  optionGroups := []
  removableIngredients := []
  addOnIds := []
  isActive := true
  isDeleted := false
  requiresPreparation := false

theorem listings_nil : listings [] [] = [] := by
  have hsorted : sortedCategories [] = [] := List.mergeSort_nil
  unfold listings
  rw [hsorted]
  rfl

theorem listings_cola : listings [] [cola] = [⟨none, [cola]⟩] := by
  have hsorted : sortedCategories [] = [] := List.mergeSort_nil
  unfold listings
  rw [hsorted]
  rfl

theorem cola_fits : LinesFit [] [cola] "ZAR" 60 where
  header := by decide
  footer := by decide
  units := by
    rw [listings_cola]
    decide

theorem cola_message_fits : ∀ message ∈ buildMenuMessages [] [cola] "ZAR" 60,
    (message.length : Int) ≤ 60 :=
  menu_messages_page_menu.2.2.2.2 cola_fits (fun h => absurd h (List.cons_ne_nil _ _))

-- The notice of an empty menu is sent as it is.
theorem notice_over_limit : ¬∀ (categories : List MenuCategory) (items : List MenuItem)
    (currency : String) (maxChars : Int), LinesFit categories items currency maxChars →
      ∀ message ∈ buildMenuMessages categories items currency maxChars,
        message.length ≤ maxChars := by
  intro h
  have hfit : LinesFit [] [] "ZAR" 50 := by
    refine ⟨by decide, by decide, ?_⟩
    rw [listings_nil]
    exact fun _ hlisting => absurd hlisting List.not_mem_nil
  exact absurd (h [] [] "ZAR" 50 hfit menuUpdating (List.mem_singleton.mpr rfl)) (by decide)

end Examples

end NextgenBackend.MenuMessages
