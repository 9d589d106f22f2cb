import PageHarvest.Schema.Basic

/-!
# Sample schemas

A page with an article, and a catalogue of products over several pages.
-/

namespace PageHarvest.Schema

/-- One article. -/
def article : Schema where
  id := "article"
  rules :=
    [{ Rule.ofKind "headline" .text with
        selector := some "article h1", fallbackSelector := some "h1" },
      { Rule.ofKind "author" .text with
        xpath := some "//span[@class='author']", optional := true },
      { Rule.ofKind "published" .attribute with
        selector := some "time", attributeName := some "datetime" },
      { Rule.ofKind "paragraphs" .text with selector := some "article p", multiple := true }]

/-- A catalogue of products. -/
def productListing : Schema where
  id := "products"
  name := some "Product listing"
  rules :=
    [{ Rule.ofKind "heading" .text with selector := some "h1", transform := some .trim },
      { Rule.ofKind "products" .list with
        selector := some ".product"
        children :=
          [{ Rule.ofKind "title" .text with selector := some ".title" },
            { Rule.ofKind "price" .text with
              selector := some ".price", regex := some "([\\d.]+)" },
            { Rule.ofKind "url" .href with selector := some "a" },
            { Rule.ofKind "badge" .text with selector := some ".badge", optional := true }] },
      Rule.ofKind "meta" .metadata]
  pagination := some
    { nextSelector := some "a.next", maxPages := some 5, waitBetweenPages := some 2000 }

end PageHarvest.Schema
