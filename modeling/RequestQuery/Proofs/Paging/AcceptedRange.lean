import RequestQuery.Proofs.Document.Record
import RequestQuery.Proofs.Paging.DerivedOffset
import RequestQuery.Settings.File

/-!
# Page sizes stay in an accepted range

* `PagingConfig.OrderedLimit`, `PagingConfig.ofDocument_orderedLimit`, `Settings.parse_orderedLimit` — a
  configuration that is read from a document or from settings has a range whose ends are the right way round,
  if it has one.
* `PagingConfig.Accepted` — a configuration that is read.
* `Pager.heldPageSize`, `PagingConfig.sizeAfter_eq` — a page size that was set holds until it is taken back;
  else the request decides.
* `Paging.pageSizeNumber?` — the integer that a request gives for its page size.
* `PagingConfig.KeepsRange`, `PagingConfig.Accepted.keepsRange` — whatever a request gives, its page size is
  in the range, and it is what was asked for as far as the range allows.
-/

namespace RequestQuery

/-! ### Configurations that are read -/

/-- A reading that puts one value into a structure keeps what every such value keeps. -/
theorem put_preserves {α σ : Type} {P : σ → Prop} {x : Reading α} {put : α → σ} {s : σ}
    (h : (x >>= fun a => pure (put a)) = .ok s) (hput : ∀ a, x = .ok a → P (put a)) : P s := by
  obtain ⟨a, ha, h⟩ := bind_ok.1 h
  cases h
  exact hput a ha

namespace PagingConfig

/-- A configuration without a range of page sizes, or with a range whose ends are the right way round. -/
def OrderedLimit (config : PagingConfig) : Prop :=
  ∀ range, config.pageSizeLimit = some range → range.min ≤ range.max

theorem orderedLimit_default : default.OrderedLimit := by
  intro range h
  cases h
  decide

theorem limitOfDocument_ordered {d : Document} {range : SizeRange}
    (h : limitOfDocument d = .ok (some range)) : range.min ≤ range.max := by
  unfold limitOfDocument at h
  split at h
  · rename_i b
    cases b with
    | false => cases h
    | true =>
      cases h
      decide
  · obtain ⟨min, -, h⟩ := bind_ok.1 h
    obtain ⟨max, -, h⟩ := bind_ok.1 h
    split at h
    · rename_i hle
      cases h
      exact hle
    · cases h
  · cases h

/-- Only the last field says something about the range. -/
theorem put_orderedLimit : ∀ f ∈ fields, ∀ c d c', OrderedLimit c → f.put c d = .ok c' →
    OrderedLimit c' := by
  intro f hf c d c' hc h
  simp only [fields, List.mem_cons, List.not_mem_nil, or_false] at hf
  rcases hf with rfl | rfl | rfl | rfl | rfl
  · exact put_preserves h fun _ _ => hc
  · exact put_preserves h fun _ _ => hc
  · exact put_preserves h fun _ _ => hc
  · exact put_preserves h fun _ _ => hc
  · refine put_preserves h fun limit hlimit range hrange => ?_
    have hrange' : limit = some range := hrange
    rw [hrange'] at hlimit
    exact limitOfDocument_ordered hlimit

theorem ofDocument_orderedLimit {d : Document} {config : PagingConfig} (h : ofDocument d = .ok config) :
    config.OrderedLimit :=
  Document.record_preserves put_orderedLimit orderedLimit_default h

end PagingConfig

namespace Settings

/-- The same for the configuration that settings hold. -/
def OrderedLimit (s : Settings) : Prop :=
  s.options.paging.OrderedLimit

/-- Only one field of settings is about paging. -/
theorem put_orderedLimit : ∀ f ∈ fields, ∀ s d s', OrderedLimit s → f.put s d = .ok s' → OrderedLimit s' := by
  intro f hf s d s' hs h
  simp only [fields, List.mem_cons, List.not_mem_nil, or_false] at hf
  rcases hf with rfl | rfl | rfl | rfl | rfl | rfl | rfl | rfl | rfl
  · exact put_preserves h fun _ _ => hs
  · exact put_preserves h fun _ _ => hs
  · exact put_preserves h fun _ _ => hs
  · exact put_preserves h fun _ _ => hs
  · exact put_preserves h fun _ _ => hs
  · -- operators are read in two steps
    obtain ⟨items, -, h⟩ := bind_ok.1 h
    exact put_preserves h fun _ _ => hs
  · exact put_preserves h fun _ hpaging => PagingConfig.ofDocument_orderedLimit hpaging
  · exact put_preserves h fun _ _ => hs
  · exact put_preserves h fun _ _ => hs

theorem parse_orderedLimit {format : SettingsFormat} {text : String} {s : Settings}
    (h : parse format text = .ok s) : s.OrderedLimit := by
  have hstart : default.OrderedLimit := PagingConfig.orderedLimit_default
  unfold parse ofDocument at h
  cases hread : Document.record fields true default (format.document text) with
  | error e =>
    rw [hread] at h
    cases h
  | ok s' =>
    rw [hread] at h
    cases h
    exact Document.record_preserves put_orderedLimit hstart hread

end Settings

/-- A configuration that is read: from a document such as a JSON value, or as a part of settings from their
text. -/
inductive PagingConfig.Accepted : PagingConfig → Prop
  | document {d : Document} {config : PagingConfig} (h : PagingConfig.ofDocument d = .ok config) :
      Accepted config
  | settings {format : SettingsFormat} {text : String} {s : Settings}
      (h : Settings.parse format text = .ok s) : Accepted s.options.paging

theorem PagingConfig.Accepted.orderedLimit {config : PagingConfig} (h : config.Accepted) :
    config.OrderedLimit := by
  cases h with
  | document h => exact ofDocument_orderedLimit h
  | settings h => exact Settings.parse_orderedLimit h

open Paging

/-! ### Page sizes that were set -/

/-- The page size that setting `n` gives. -/
def PagingConfig.sizeSet (config : PagingConfig) (n : Int64) : UInt64 :=
  (unsigned? n).getD config.defaultPageSize

namespace Pager

/-- The page size that was set and still holds after one more call. -/
def Call.heldPageSize (held : Option Int64) : Call → Option Int64
  | .setPageSize size => size
  | _ => held

/-- The page size that was set and still holds after several calls. -/
def heldPageSize (calls : List Call) : Option Int64 :=
  calls.foldl Call.heldPageSize none

end Pager

namespace FreshPager

variable {q : FreshPager} {params : Params} {config : PagingConfig} {held : Option Int64}

theorem Serves.chosenPageSize_ask (h : q.Serves params config)
    (hheld : q.chosenPageSize = held.map config.sizeSet) (call : Pager.Call) :
    (q.ask call).2.chosenPageSize = (call.heldPageSize held).map config.sizeSet := by
  cases call with
  | setPage page =>
    simp only [FreshPager.ask]
    split
    · exact hheld
    · exact hheld
  | setPageSize size =>
    show size.map (fun n => (unsigned? n).getD q.config.defaultPageSize) = _
    rw [h.config]
    rfl
  | setOffset offset => exact hheld
  | _ => exact hheld

theorem Serves.chosenPageSize_after (h : q.Serves params config)
    (hheld : q.chosenPageSize = held.map config.sizeSet) (calls : List Pager.Call) :
    (q.after calls).chosenPageSize = (calls.foldl Pager.Call.heldPageSize held).map config.sizeSet := by
  induction calls generalizing q held with
  | nil => exact hheld
  | cons call calls ih => exact ih (h.ask call) (h.chosenPageSize_ask hheld call)

end FreshPager

namespace PagingConfig

variable {config : PagingConfig}

/-- The page size of a request after several calls to its pager. -/
def sizeAfter (config : PagingConfig) (params : Params) (calls : List Pager.Call) : UInt64 :=
  ((Pager.ofRequest params config).after calls).pageSize.1

/-- **A page size that was set holds until it is set again.** Without one, the request decides, whatever else
was asked and set. -/
theorem sizeAfter_eq (config : PagingConfig) (params : Params) (calls : List Pager.Call) :
    config.sizeAfter params calls
      = ((Pager.heldPageSize calls).map config.sizeSet).getD (requestedPageSize params config) := by
  have hmirrors := Pager.after_mirrors (Pager.mirrors_ofRequest params config) calls
  have hstart := FreshPager.serves_ofRequest params config
  have hserves := hstart.after calls
  have hnone : (FreshPager.ofRequest params config).chosenPageSize = none.map config.sizeSet := rfl
  rw [sizeAfter, hmirrors.pageSize_fst, FreshPager.pageSize, hserves.params, hserves.config,
    hstart.chosenPageSize_after hnone calls]
  rfl

/-- Where none is set, the range applies to the size that the request asks for. -/
theorem sizeAfter_of_range {range : SizeRange} (hrange : config.pageSizeLimit = some range)
    (params : Params) {calls : List Pager.Call} (hheld : Pager.heldPageSize calls = none) :
    config.sizeAfter params calls = range.clamp (askedPageSize params config) := by
  rw [sizeAfter_eq, hheld, ← requestedPageSize_of_range params hrange]
  rfl

end PagingConfig

/-! ### Page sizes that are asked for -/

namespace Paging

variable {params : Params} {config : PagingConfig}

/-- The integer that a request gives for its page size. -/
def pageSizeNumber? (params : Params) (config : PagingConfig) : Option Int64 :=
  (params.scalar? config.pageSizeParam).bind Scalar.toInt64?

theorem askedPageSize_of_number {r : Int64} (hr : pageSizeNumber? params config = some r) (hpos : 0 ≤ r) :
    askedPageSize params config = r.toUInt64 := by
  show ((pageSizeNumber? params config).bind unsigned?).getD _ = _
  rw [hr, Option.bind_some, unsigned?, if_pos hpos]
  rfl

theorem toUInt64_mono {r r' : Int64} (h : 0 ≤ r) (hle : r ≤ r') : r.toUInt64 ≤ r'.toUInt64 := by
  have hr := toNat_toUInt64 h
  have hr' := toNat_toUInt64 (Int64.le_trans h hle)
  have hint : r.toInt ≤ r'.toInt := Int64.le_iff_toInt_le.1 hle
  rw [UInt64.le_iff_toNat_le]
  omega

end Paging

namespace PagingConfig

/-- Page sizes that stay in the range of a configuration, if it has one, as long as none is set. What else was
asked and set before does not matter. -/
structure KeepsRange (config : PagingConfig) : Prop where
  ordered : ∀ range, config.pageSizeLimit = some range → range.min ≤ range.max
  /-- Whatever the request gives, or does not give. -/
  within : ∀ range, config.pageSizeLimit = some range →
    ∀ params calls, Pager.heldPageSize calls = none →
      range.min ≤ config.sizeAfter params calls ∧ config.sizeAfter params calls ≤ range.max
  /-- A size in the range is given as it was asked for. -/
  exact : ∀ range, config.pageSizeLimit = some range →
    ∀ params calls, Pager.heldPageSize calls = none →
      ∀ r, pageSizeNumber? params config = some r → (range.min.toNat : Int) ≤ r.toInt →
        r.toInt ≤ range.max.toNat → ((config.sizeAfter params calls).toNat : Int) = r.toInt
  /-- Who asks for more does not get less. -/
  monotone : config.pageSizeLimit ≠ none →
    ∀ params params' calls calls', Pager.heldPageSize calls = none → Pager.heldPageSize calls' = none →
      ∀ r r', pageSizeNumber? params config = some r → pageSizeNumber? params' config = some r' →
        0 ≤ r → r ≤ r' → config.sizeAfter params calls ≤ config.sizeAfter params' calls'

/-- **Every accepted configuration keeps its page sizes in the range.** -/
theorem Accepted.keepsRange {config : PagingConfig} (h : config.Accepted) : config.KeepsRange := by
  have hordered := h.orderedLimit
  constructor
  case ordered => exact hordered
  case within =>
    intro range hrange params calls hheld
    have hends := hordered range hrange
    rw [sizeAfter_of_range hrange params hheld]
    exact ⟨SizeRange.min_le_clamp hends _, SizeRange.clamp_le_max hends _⟩
  case exact =>
    intro range hrange params calls hheld r hr hmin hmax
    have hpos : 0 ≤ r := Int64.le_iff_toInt_le.2 (Int.le_trans (Int.natCast_nonneg _) hmin)
    have hnat := toNat_toUInt64 hpos
    have hmin' : range.min ≤ r.toUInt64 := UInt64.le_iff_toNat_le.2 (by omega)
    have hmax' : r.toUInt64 ≤ range.max := UInt64.le_iff_toNat_le.2 (by omega)
    rw [sizeAfter_of_range hrange params hheld, askedPageSize_of_number hr hpos,
      SizeRange.clamp_of_mem hmin' hmax', hnat]
  case monotone =>
    intro hlimit params params' calls calls' hheld hheld' r r' hr hr' hpos hle
    obtain ⟨range, hrange⟩ := Option.ne_none_iff_exists'.1 hlimit
    rw [sizeAfter_of_range hrange params hheld, sizeAfter_of_range hrange params' hheld',
      askedPageSize_of_number hr hpos, askedPageSize_of_number hr' (Int64.le_trans hpos hle)]
    exact SizeRange.clamp_mono (hordered range hrange) (toUInt64_mono hpos hle)

/-- Pages of 5 to 50 rows, and of 900 for a request that does not ask for a size. -/
def narrow : PagingConfig :=
  { default with defaultPageSize := 900, pageSizeLimit := some ⟨5, 50⟩ }

/-- Settings with these pages. -/
def narrowSettings : String :=
  "[paginator]\npage_size_limit = [5, 50]\ndefault_page_size = 900"

/-- A page size is set and taken back. -/
def setAndTaken : List Pager.Call :=
  [.pageSize, .setPageSize (some 900), .limit, .setPageSize none]

/-- The default is outside the range, but no request gets it; a text that starts with a size in the range
gives that size. -/
theorem keepsRange_narrow :
    (∃ s, Settings.parse .toml narrowSettings = .ok s ∧ s.options.paging = narrow) ∧
    Pager.heldPageSize setAndTaken = none ∧ narrow.sizeAfter .empty setAndTaken ≤ 50 ∧
    ((narrow.sizeAfter (.ofList [("limit", .string " 12 rows")]) setAndTaken).toNat : Int) = 12 := by
  have hread : (Settings.parse .toml narrowSettings).toOption.map (fun s => s.options.paging)
      = some narrow := by decide +kernel
  obtain ⟨s, hs, hpaging⟩ := exists_ok_of_map_toOption hread
  have haccepted : narrow.Accepted := by
    rw [← hpaging]
    exact .settings hs
  have hkeeps : narrow.KeepsRange := Accepted.keepsRange haccepted
  refine ⟨⟨s, hs, hpaging⟩, rfl, ?_, ?_⟩
  · exact (hkeeps.within _ rfl .empty setAndTaken rfl).2
  · exact hkeeps.exact _ rfl _ setAndTaken rfl 12 rfl (by decide) (by decide)

end PagingConfig

end RequestQuery
