import Literate.Page.Css

/-!
# Page themes

The style sheets of the page themes.
-/

namespace Literate.Theme

open Css

/-- The light theme. -/
def defaultSheet : Sheet where
  comment := "Default theme: light page, dark text"
  groups :=
    [[.block ":root"
        [("--slide-width", "960px"),
          ("--slide-height", "540px"),
          ("--accent", "#0969da"),
          ("--muted", "#59636e"),
          ("--border", "#d1d9e0"),
          ("--code-bg", "#f6f8fa")]],
    [.block "body"
        [("font-family", "-apple-system, BlinkMacSystemFont, \"Segoe UI\", \"Noto Sans\", Helvetica, Arial, sans-serif"),
          ("font-size", "16px"),
          ("line-height", "1.5"),
          ("color", "#1f2328"),
          ("background", "#ffffff")]],
    [.block ".markdown-body"
        [("max-width", "880px"),
          ("margin", "0 auto"),
          ("padding", "32px")]],
    [.block ".slide"
        [("width", "var(--slide-width)"),
          ("height", "var(--slide-height)"),
          ("padding", "40px 56px"),
          ("background", "#ffffff"),
          ("overflow", "hidden")]],
    [.inline "h1"
        [("font-size", "2em"),
          ("border-bottom", "1px solid var(--border)"),
          ("padding-bottom", ".3em")],
      .inline "h2"
        [("font-size", "1.5em"),
          ("border-bottom", "1px solid var(--border)"),
          ("padding-bottom", ".3em")],
      .inline "h3"
        [("font-size", "1.25em")],
      .inline "h1, h2, h3"
        [("font-weight", "600"),
          ("margin", "24px 0 16px")],
      .inline "p"
        [("margin", "0 0 16px")],
      .inline "ul, ol"
        [("padding-left", "2em"),
          ("margin", "0 0 16px")],
      .inline "li + li"
        [("margin-top", ".25em")],
      .inline "a"
        [("color", "var(--accent)")]],
    [.block "blockquote"
        [("margin", "0 0 16px"),
          ("padding", "0 1em"),
          ("color", "var(--muted)"),
          ("border-left", ".25em solid var(--border)")]],
    [.inline "table"
        [("border-collapse", "collapse"),
          ("margin", "0 0 16px")],
      .inline "th, td"
        [("border", "1px solid var(--border)"),
          ("padding", "6px 13px")],
      .inline "th"
        [("background", "var(--code-bg)")]],
    [.block "code"
        [("font-family", "ui-monospace, SFMono-Regular, Menlo, Consolas, monospace"),
          ("font-size", "85%"),
          ("background", "var(--code-bg)"),
          ("padding", ".2em .4em"),
          ("border-radius", "6px")]],
    [.block "pre"
        [("background", "var(--code-bg)"),
          ("padding", "16px"),
          ("border-radius", "6px"),
          ("overflow", "auto"),
          ("line-height", "1.45")]],
    [.inline "pre code"
        [("background", "transparent"),
          ("padding", "0"),
          ("font-size", "85%")]],
    [.block ".code-block, .code-execution-pair"
        [("border", "1px solid var(--border)"),
          ("border-radius", "6px"),
          ("margin", "0 0 16px"),
          ("overflow", "hidden")]],
    [.inline ".code-execution-pair .code-block"
        [("border", "none"),
          ("margin", "0"),
          ("border-radius", "0")],
      .inline ".code-block pre, .code-execution-pair pre"
        [("margin", "0"),
          ("border-radius", "0")]],
    [.block ".block-header, .output-header"
        [("font-size", "12px"),
          ("color", "var(--muted)"),
          ("background", "#eef1f4"),
          ("padding", "4px 12px"),
          ("border-bottom", "1px solid var(--border)")]],
    [.inline ".output-header"
        [("border-top", "1px solid var(--border)"),
          ("letter-spacing", ".08em")],
      .inline ".block-tag"
        [("font-family", "ui-monospace, SFMono-Regular, Menlo, Consolas, monospace")],
      .inline ".block-language"
        [("float", "right")],
      .inline ".output pre"
        [("background", "#ffffff")]]]

/-- The dark theme. -/
def darkSheet : Sheet where
  comment := "Dark theme: near-black page, light text"
  groups :=
    [[.block ":root"
        [("--slide-width", "960px"),
          ("--slide-height", "540px"),
          ("--accent", "#58a6ff"),
          ("--muted", "#9198a1"),
          ("--border", "#3d444d"),
          ("--code-bg", "#262626")]],
    [.block "body"
        [("font-family", "-apple-system, BlinkMacSystemFont, \"Segoe UI\", \"Noto Sans\", Helvetica, Arial, sans-serif"),
          ("font-size", "16px"),
          ("line-height", "1.5"),
          ("color", "#e6edf3"),
          ("background", "#1a1a1a")]],
    [.block ".markdown-body"
        [("max-width", "880px"),
          ("margin", "0 auto"),
          ("padding", "32px")]],
    [.block ".slide"
        [("width", "var(--slide-width)"),
          ("height", "var(--slide-height)"),
          ("padding", "40px 56px"),
          ("background", "#1a1a1a"),
          ("overflow", "hidden")]],
    [.inline "h1"
        [("font-size", "2em"),
          ("color", "#ffffff"),
          ("border-bottom", "1px solid var(--border)"),
          ("padding-bottom", ".3em")],
      .inline "h2"
        [("font-size", "1.5em"),
          ("color", "#ffffff"),
          ("border-bottom", "1px solid var(--border)"),
          ("padding-bottom", ".3em")],
      .inline "h3"
        [("font-size", "1.25em"),
          ("color", "#ffffff")],
      .inline "h1, h2, h3"
        [("font-weight", "600"),
          ("margin", "24px 0 16px")],
      .inline "p"
        [("margin", "0 0 16px")],
      .inline "ul, ol"
        [("padding-left", "2em"),
          ("margin", "0 0 16px")],
      .inline "li + li"
        [("margin-top", ".25em")],
      .inline "a"
        [("color", "var(--accent)")]],
    [.block "blockquote"
        [("margin", "0 0 16px"),
          ("padding", "0 1em"),
          ("color", "var(--muted)"),
          ("border-left", ".25em solid var(--border)")]],
    [.inline "table"
        [("border-collapse", "collapse"),
          ("margin", "0 0 16px")],
      .inline "th, td"
        [("border", "1px solid var(--border)"),
          ("padding", "6px 13px")],
      .inline "th"
        [("background", "var(--code-bg)")]],
    [.block "code"
        [("font-family", "ui-monospace, SFMono-Regular, Menlo, Consolas, monospace"),
          ("font-size", "85%"),
          ("background", "var(--code-bg)"),
          ("padding", ".2em .4em"),
          ("border-radius", "6px")]],
    [.block "pre"
        [("background", "var(--code-bg)"),
          ("padding", "16px"),
          ("border-radius", "6px"),
          ("overflow", "auto"),
          ("line-height", "1.45")]],
    [.inline "pre code"
        [("background", "transparent"),
          ("padding", "0"),
          ("font-size", "85%")]],
    [.block ".code-block, .code-execution-pair"
        [("border", "1px solid var(--border)"),
          ("border-radius", "6px"),
          ("margin", "0 0 16px"),
          ("overflow", "hidden")]],
    [.inline ".code-execution-pair .code-block"
        [("border", "none"),
          ("margin", "0"),
          ("border-radius", "0")],
      .inline ".code-block pre, .code-execution-pair pre"
        [("margin", "0"),
          ("border-radius", "0")]],
    [.block ".block-header, .output-header"
        [("font-size", "12px"),
          ("color", "var(--muted)"),
          ("background", "#202020"),
          ("padding", "4px 12px"),
          ("border-bottom", "1px solid var(--border)")]],
    [.inline ".output-header"
        [("border-top", "1px solid var(--border)"),
          ("letter-spacing", ".08em")],
      .inline ".block-tag"
        [("font-family", "ui-monospace, SFMono-Regular, Menlo, Consolas, monospace")],
      .inline ".block-language"
        [("float", "right")],
      .inline ".output pre"
        [("background", "#111111")]]]

/-- The theme for printed documents. -/
def paperSheet : Sheet where
  comment := "Paper theme: serif text for printed documents"
  groups :=
    [[.block ":root"
        [("--slide-width", "960px"),
          ("--slide-height", "540px"),
          ("--accent", "#8b2e16"),
          ("--muted", "#6b6357"),
          ("--border", "#d8d0c0"),
          ("--code-bg", "#f4efe4")]],
    [.block "body"
        [("font-family", "\"Iowan Old Style\", \"Palatino Linotype\", Palatino, Georgia, serif"),
          ("font-size", "17px"),
          ("line-height", "1.6"),
          ("color", "#2b2620"),
          ("background", "#fbf8f1")]],
    [.block ".markdown-body"
        [("max-width", "760px"),
          ("margin", "0 auto"),
          ("padding", "40px 32px")]],
    [.block ".slide"
        [("width", "var(--slide-width)"),
          ("height", "var(--slide-height)"),
          ("padding", "48px 64px"),
          ("background", "#fbf8f1"),
          ("overflow", "hidden")]],
    [.inline "h1"
        [("font-size", "2.1em"),
          ("font-weight", "500"),
          ("letter-spacing", ".01em")],
      .inline "h2"
        [("font-size", "1.5em"),
          ("font-weight", "500"),
          ("font-style", "italic")],
      .inline "h3"
        [("font-size", "1.2em"),
          ("font-weight", "600")],
      .inline "h1, h2, h3"
        [("margin", "28px 0 14px")],
      .inline "p"
        [("margin", "0 0 14px"),
          ("text-align", "justify"),
          ("hyphens", "auto")],
      .inline "ul, ol"
        [("padding-left", "1.6em"),
          ("margin", "0 0 14px")],
      .inline "a"
        [("color", "var(--accent)"),
          ("text-decoration-thickness", "1px")]],
    [.block "blockquote"
        [("margin", "0 0 14px"),
          ("padding", "0 1.2em"),
          ("color", "var(--muted)"),
          ("font-style", "italic"),
          ("border-left", "2px solid var(--accent)")]],
    [.inline "table"
        [("border-collapse", "collapse"),
          ("margin", "0 auto 14px")],
      .inline "th, td"
        [("border-bottom", "1px solid var(--border)"),
          ("padding", "6px 14px")]],
    [.block "code"
        [("font-family", "\"JetBrains Mono\", Menlo, Consolas, monospace"),
          ("font-size", "82%"),
          ("background", "var(--code-bg)"),
          ("padding", ".1em .35em"),
          ("border-radius", "3px")]],
    [.block "pre"
        [("background", "var(--code-bg)"),
          ("padding", "14px 16px"),
          ("border-radius", "3px"),
          ("overflow", "auto"),
          ("line-height", "1.4")]],
    [.inline "pre code"
        [("background", "transparent"),
          ("padding", "0")]],
    [.block ".code-block, .code-execution-pair"
        [("border", "1px solid var(--border)"),
          ("margin", "0 0 14px")]],
    [.inline ".code-execution-pair .code-block"
        [("border", "none"),
          ("margin", "0")],
      .inline ".code-block pre, .code-execution-pair pre"
        [("margin", "0"),
          ("border-radius", "0")]],
    [.block ".block-header, .output-header"
        [("font-family", "\"JetBrains Mono\", Menlo, Consolas, monospace"),
          ("font-size", "11px"),
          ("color", "var(--muted)"),
          ("padding", "3px 12px"),
          ("border-bottom", "1px solid var(--border)")]],
    [.inline ".output-header"
        [("border-top", "1px solid var(--border)"),
          ("letter-spacing", ".1em")],
      .inline ".block-language"
        [("float", "right")],
      .inline ".output pre"
        [("background", "#ffffff")]]]

/-- The page themes by name.  Model of the files under `theme_loader.THEMES_DIR`. -/
def sheets : List (String × Sheet) :=
  [("dark", darkSheet), ("default", defaultSheet), ("paper", paperSheet)]

end Literate.Theme
