import Bedspace.Proofs.Acting
import Bedspace.Proofs.Booking.Creation
import Bedspace.Proofs.Search.Listing
import Mathlib.Algebra.Order.Floor.Semifield
import Mathlib.Data.Rat.Floor

/-!
# Walking the pages of a listing

Whoever asks for one page after the other, from the first to the last one that is told of, gets the
whole listing, each item once and in its place.

* `pageCount_eq_ceil`: the number of pages is the number of items divided by the size of a page, rounded
  up; `flatMap_pages`: the first pages together are the beginning of the listing;
* `Paged` says what the pages of a listing have to be like, with all numbers in their widths;
* `Store.ListsAt` says what a listing of the bookings at some premises has to be like;
* **`paginate_walk`**: this is so of every listing, and the pages of the bookings at known premises are
  those of such a listing.
-/

namespace Bedspace

open Operation

/-! ## 1. Counting pages -/

theorem pageCount_le_iff {results size count : Nat} (h : 0 < size) :
    pageCount results size ≤ count ↔ results ≤ count * size := by
  constructor
  · intro hle
    exact Nat.le_trans (le_pageCount_mul h) (Nat.mul_le_mul_right size hle)
  · intro hle
    have hroom : pageCount results size * size < (count + 1) * size := by
      rw [Nat.add_mul, Nat.one_mul]
      exact Nat.lt_of_lt_of_le (pageCount_mul_le h) (Nat.add_le_add_right hle size)
    exact Nat.le_of_lt_succ (Nat.lt_of_mul_lt_mul_right hroom)

/-- **The number of pages** is that of the results divided by the size, rounded up. -/
theorem pageCount_eq_ceil (results : Nat) {size : Nat} (h : 0 < size) :
    pageCount results size = ⌈(results / size : ℚ)⌉₊ := by
  have hsize : (0 : ℚ) < size := Nat.cast_pos.2 h
  refine eq_of_forall_ge_iff fun count => ?_
  rw [pageCount_le_iff h, Nat.ceil_le, div_le_iff₀ hsize, ← Nat.cast_mul, Nat.cast_le]

/-- There are no more pages than results. -/
theorem pageCount_le (results : Nat) {size : Nat} (h : 0 < size) :
    pageCount results size ≤ results :=
  (pageCount_le_iff h).2 (Nat.le_mul_of_pos_right results h)

/-! ## 2. The items of a page -/

section Items

variable {α : Type} {items : List α} {page size : Nat}

/-- No page whose number and size have 32 bits is so far on that the results before it have no room
    in 64. -/
theorem skip_lt (hpage : page < bitValues 32) (hsize : size < bitValues 32) :
    (max page 1 - 1) * size < bitValues 64 := by
  have hpos := bitValues_pos 32
  have hbefore : max page 1 - 1 < bitValues 32 := by omega
  have hsquare : bitValues 64 = bitValues 32 * bitValues 32 := by decide
  rw [hsquare]
  exact Nat.mul_lt_mul'' hbefore hsize

theorem pageItems_eq (h : (page - 1) * size < bitValues 64) :
    pageItems items page size = (items.drop ((page - 1) * size)).take size := by
  unfold pageItems pageSkip
  rw [Nat.min_eq_left (Nat.le_sub_one_of_lt h)]

/-- **The first pages together** are the beginning of the listing. -/
theorem flatMap_pages (items : List α) (size count : Nat) :
    ((List.range' 1 count).flatMap fun page => (items.drop ((page - 1) * size)).take size) =
      items.take (count * size) := by
  induction count with
  | zero => simp
  | succ count ih =>
    rw [List.range'_1_concat, List.flatMap_append, ih, List.flatMap_singleton, Nat.add_mul,
      Nat.one_mul, List.take_add, Nat.add_sub_cancel_left]

/-- A page before the last one is full. -/
theorem length_page_of_lt (hsize : 0 < size) (hpage : 1 ≤ page)
    (hlt : page < pageCount items.length size) :
    ((items.drop ((page - 1) * size)).take size).length = size := by
  have hmore : page * size < items.length :=
    Nat.lt_of_not_le fun hle => Nat.not_le_of_lt hlt ((pageCount_le_iff hsize).2 hle)
  obtain ⟨before, rfl⟩ := Nat.exists_eq_add_of_le' hpage
  rw [Nat.add_mul, Nat.one_mul] at hmore
  rw [Nat.add_sub_cancel, List.length_take, List.length_drop]
  omega

/-- A page after the last one is empty. -/
theorem page_eq_nil_of_lt (hsize : 0 < size) (hlt : pageCount items.length size < page) :
    (items.drop ((page - 1) * size)).take size = [] := by
  have hle : items.length ≤ (page - 1) * size :=
    (pageCount_le_iff hsize).1 (Nat.le_sub_one_of_lt hlt)
  rw [List.drop_eq_nil_of_le hle, List.take_nil]

end Items

/-! ## 3. All pages -/

/-- **What the pages of a listing have to be like**, for a size and for all numbers of 32 bits: they
    tell of the listing as it is, together they are the listing, all but the last one are full, and what
    is told has room where it is told. -/
structure Paged {α : Type} (items : List α) (size : Nat) (page : Nat → Page α) : Prop where
  metadata : ∀ n < bitValues 32, (page n).metadata =
    some ⟨max n 1, ⌈(items.length / size : ℚ)⌉₊, items.length, size⟩
  whole : ((List.range' 1 ⌈(items.length / size : ℚ)⌉₊).flatMap fun n => (page n).items) = items
  full : ∀ n, 1 ≤ n → n < ⌈(items.length / size : ℚ)⌉₊ → (page n).items.length = size
  beyond : ∀ n < bitValues 32, ⌈(items.length / size : ℚ)⌉₊ < n → (page n).items = []
  zero : page 0 = page 1
  pages_lt : ⌈(items.length / size : ℚ)⌉₊ < bitValues 32
  skip_lt : ∀ n < bitValues 32, (max n 1 - 1) * size < bitValues 64

theorem paginate_paged {α : Type} {items : List α} {perPage : Option Nat} {defaultSize : Nat}
    (hitems : items.length < bitValues 32) (hperPage : ∀ n, perPage = some n → n < bitValues 32)
    (hdefault : defaultSize < bitValues 32) :
    Paged items (max (perPage.getD defaultSize) 1) fun n =>
      paginate items ⟨some n, perPage⟩ defaultSize := by
  have hasked : perPage.getD defaultSize < bitValues 32 := by
    cases perPage with
    | none => exact hdefault
    | some n => exact hperPage n rfl
  generalize hs : max (perPage.getD defaultSize) 1 = size
  have hpos : 0 < size := by omega
  have hsize : size < bitValues 32 := by
    have hone : 1 < bitValues 32 := by decide
    omega
  have hcount : pageCount items.length size < bitValues 32 :=
    Nat.lt_of_le_of_lt (pageCount_le items.length hpos) hitems
  have hpage (n : Nat) : paginate items ⟨some n, perPage⟩ defaultSize =
      ⟨pageItems items (max n 1) size,
        some ⟨max n 1, pageCount items.length size, items.length, size⟩⟩ := by
    unfold paginate
    dsimp only
    rw [hs, Nat.mod_eq_of_lt hcount]
  have hitemsOf {n : Nat} (hn : n < bitValues 32) (hfirst : 1 ≤ n) :
      pageItems items (max n 1) size = (items.drop ((n - 1) * size)).take size := by
    rw [pageItems_eq (skip_lt hn hsize), Nat.max_eq_left hfirst]
  have hceil := pageCount_eq_ceil items.length hpos
  refine
    { metadata := fun n _ => by rw [hpage, hceil]
      whole := ?_
      full := fun n hfirst hlt => ?_
      beyond := fun n hn hlt => ?_
      zero := by rw [hpage, hpage]; rfl
      pages_lt := hceil ▸ hcount
      skip_lt := fun n hn => skip_lt hn hsize }
  · rw [← hceil]
    have hpages : ∀ n ∈ List.range' 1 (pageCount items.length size),
        (paginate items ⟨some n, perPage⟩ defaultSize).items =
          (items.drop ((n - 1) * size)).take size := by
      intro n hn
      obtain ⟨hfirst, hlast⟩ := List.mem_range'_1.1 hn
      rw [hpage]
      exact hitemsOf (by omega) hfirst
    rw [List.flatMap_congr hpages, flatMap_pages]
    exact List.take_of_length_le (le_pageCount_mul hpos)
  · rw [← hceil] at hlt
    rw [hpage]
    dsimp only
    rw [hitemsOf (Nat.lt_trans hlt hcount) hfirst]
    exact length_page_of_lt hpos hfirst hlt
  · rw [← hceil] at hlt
    rw [hpage]
    dsimp only
    rw [hitemsOf hn (Nat.lt_of_le_of_lt (Nat.zero_le _) hlt)]
    exact page_eq_nil_of_lt hpos hlt

/-! ## 4. The bookings at some premises -/

/-- **What a listing of the bookings at some premises has to be like**: it has the stored bookings that
    name the premises, each once, by arrival date and identifier. -/
structure Store.ListsAt (store : Store) (premises : PremisesId) (listing : List Booking) : Prop where
  mem_iff : ∀ b, b ∈ listing ↔ b ∈ store.bookings.rows ∧ b.premisesId = premises
  nodup : listing.Nodup
  sorted : listing.Pairwise fun a b =>
    a.arrivalDate < b.arrivalDate ∨ a.arrivalDate = b.arrivalDate ∧ a.id.text < b.id.text

namespace Bookings

theorem listedBefore_iff {a b : Booking} :
    listedBefore a b = true ↔
      a.arrivalDate < b.arrivalDate ∨ a.arrivalDate = b.arrivalDate ∧ a.id.text ≤ b.id.text := by
  unfold listedBefore
  rw [Bool.or_eq_true, Bool.and_eq_true, decide_eq_true_eq, decide_eq_true_eq, decide_eq_true_eq]

theorem listsAt_mergeSort (store : Store) (premises : PremisesId) :
    store.ListsAt premises ((store.bookingsAt premises).mergeSort listedBefore) := by
  have hids : ((store.bookingsAt premises).map Booking.id).Nodup := by
    refine List.Nodup.of_map Id.text ?_
    rw [List.map_map]
    exact store.bookings.nodup_keys.sublist (List.filter_sublist.map _)
  exact
    { mem_iff := fun b => by
        rw [List.mem_mergeSort, Store.bookingsAt, List.mem_filter, decide_eq_true_eq]
      nodup := (List.mergeSort_perm _ _).nodup_iff.2 (.of_map _ hids)
      sorted := pairwise_mergeSort_dated (fun a b => listedBefore_iff (a := a) (b := b)) hids }

variable {world : World} {premises : PremisesId}

theorem run_list {inventory : Inventory} (h : world.store.premises? premises = some inventory) :
    (list premises).run .none world =
      (.ok ((world.store.bookingsAt premises).mergeSort listedBefore), world) := by
  unfold list
  rw [run_bind_of_ok (run_findPremises h), run_bind_of_ok (run_call_of_ok rfl)]
  rfl

theorem run_list_of_unknown (h : world.store.premises? premises = none) :
    (list premises).run .none world = (.error (.premisesNotFound premises), world) := by
  have hmissing : (findPremises premises).run .none world =
      (.error (.premisesNotFound premises), world) := by
    unfold findPremises
    rw [run_bind_of_ok (run_call_of_ok rfl), h]
    rfl
  exact run_bind_of_error hmissing

end Bookings

/-- What a request for one page of the bookings at some premises comes to, if nothing else happens
    meanwhile. -/
def World.askPage (world : World) (settings : SearchSettings) (today : Date) (premises : PremisesId)
    (criteria : PageCriteria) : Except ActionError Reply × World :=
  ((Action.listBookings premises criteria).perform settings today).run .none world

namespace World

variable {world : World} {settings : SearchSettings} {today : Date} {premises : PremisesId}
  {criteria : PageCriteria}

theorem askPage_of_known {inventory : Inventory}
    (h : world.store.premises? premises = some inventory) :
    world.askPage settings today premises criteria =
      (.ok (.bookingsPage (paginate ((world.store.bookingsAt premises).mergeSort
        Bookings.listedBefore) criteria settings.defaultPageSize)), world) := by
  unfold askPage Action.perform
  rw [Action.run_replying, Bookings.run_list h]
  rfl

theorem askPage_of_unknown (h : world.store.premises? premises = none) :
    world.askPage settings today premises criteria =
      (.error (.booking (.premisesNotFound premises)), world) := by
  unfold askPage Action.perform
  rw [Action.run_replying, Bookings.run_list_of_unknown h]
  rfl

end World

/-- **Walking the pages of a listing yields it once**, whatever size is asked for and whatever the size
    is without that. The pages of the bookings at known premises are those of the listing of all of
    them; for unknown premises there are none. -/
theorem paginate_walk {perPage : Option Nat} {defaultSize : Nat}
    (hperPage : ∀ n, perPage = some n → n < bitValues 32) (hdefault : defaultSize < bitValues 32) :
    (∀ (α : Type) (items : List α), items.length < bitValues 32 →
      Paged items (max (perPage.getD defaultSize) 1) fun n =>
        paginate items ⟨some n, perPage⟩ defaultSize) ∧
    ∀ (world : World) (miles : Float) (today : Date) (premises : PremisesId),
      (∀ inventory, world.store.premises? premises = some inventory →
        (world.store.bookingsAt premises).length < bitValues 32 →
        ∃ listing page, world.store.ListsAt premises listing ∧
          Paged listing (max (perPage.getD defaultSize) 1) page ∧
          ∀ n, world.askPage ⟨miles, defaultSize⟩ today premises ⟨some n, perPage⟩ =
            (.ok (.bookingsPage (page n)), world)) ∧
      (world.store.premises? premises = none →
        ∀ n, world.askPage ⟨miles, defaultSize⟩ today premises ⟨some n, perPage⟩ =
          (.error (.booking (.premisesNotFound premises)), world)) := by
  refine ⟨fun α items hitems => paginate_paged hitems hperPage hdefault,
    fun world miles today premises => ⟨fun inventory hknown hfew => ?_, fun hunknown n => ?_⟩⟩
  · have hlength : ((world.store.bookingsAt premises).mergeSort Bookings.listedBefore).length <
        bitValues 32 := by
      rwa [List.length_mergeSort]
    exact ⟨_, _, Bookings.listsAt_mergeSort world.store premises,
      paginate_paged hlength hperPage hdefault, fun n => World.askPage_of_known hknown⟩
  · exact World.askPage_of_unknown hunknown

/-- A bed is booked for two stays, the later one first. -/
def twoStays : System :=
  (System.idle .oneBed).serveAll
    [.createBooking ⟨"premises-1"⟩
      ⟨"X320741", ⟨"bed-1"⟩, Date.first.later 4, Date.first.later 6⟩,
    .createBooking ⟨"premises-1"⟩ ⟨"X320742", ⟨"bed-1"⟩, .first, Date.first.later 2⟩]

/-- Pages that are to hold nothing hold one item each, so the two bookings are on two pages. -/
theorem twoStays_walk :
    (∀ n, some 0 = some n → n < bitValues 32) ∧ 10 < bitValues 32 ∧
      (twoStays.world.store.bookingsAt ⟨"premises-1"⟩).length = 2 ∧
      ∃ listing page, twoStays.world.store.ListsAt ⟨"premises-1"⟩ listing ∧
        Paged listing 1 page ∧
        ∀ n, twoStays.world.askPage .default .first ⟨"premises-1"⟩ ⟨some n, some 0⟩ =
          (.ok (.bookingsPage (page n)), twoStays.world) := by
  have hzero : ∀ n, some 0 = some n → n < bitValues 32 := by
    intro n hn
    rw [← Option.some.inj hn]
    exact bitValues_pos 32
  have hten : 10 < bitValues 32 := by decide
  have htwo : (twoStays.world.store.bookingsAt ⟨"premises-1"⟩).length = 2 := by decide +kernel
  have hknown : (twoStays.world.store.premises? ⟨"premises-1"⟩).isSome = true := by decide +kernel
  obtain ⟨inventory, hinventory⟩ := Option.isSome_iff_exists.1 hknown
  obtain ⟨_, hbookings⟩ := paginate_walk hzero hten
  refine ⟨hzero, hten, htwo, (hbookings twoStays.world _ _ _).1 inventory hinventory ?_⟩
  rw [htwo]
  decide

end Bedspace
