import SiteOptimizer.Text.Basic

/-!
# Characters by name

Pages may write a character by a name between an ampersand and a semicolon. The standard of pages
lists the names; a few of them, the oldest, also stand without the semicolon. Names that are written
together in a table, with blanks between them, are names of the same characters.
-/

namespace SiteOptimizer
namespace Minify
namespace Html

/-- The names of characters below the arrows: letters, marks and signs. -/
def namedLetters : List (Nat × String) :=
  [(0x9, "Tab"), (0xA, "NewLine"), (0x21, "excl"), (0x22, "QUOT quot"), (0x23, "num"),
    (0x24, "dollar"), (0x25, "percnt"), (0x26, "AMP amp"), (0x27, "apos"),
    (0x28, "lpar"), (0x29, "rpar"),
   (0x2A, "ast midast"), (0x2B, "plus"), (0x2C, "comma"), (0x2E, "period"), (0x2F, "sol"),
   (0x3A, "colon"), (0x3B, "semi"), (0x3C, "LT lt"), (0x3D, "equals"), (0x3E, "GT gt"),
   (0x3F, "quest"), (0x40, "commat"), (0x5B, "lbrack lsqb"), (0x5C, "bsol"), (0x5D, "rbrack rsqb"),
   (0x5E, "Hat"), (0x5F, "UnderBar lowbar"), (0x60, "DiacriticalGrave grave"),
   (0x7B, "lbrace lcub"), (0x7C, "VerticalLine verbar vert"),
   (0x7D, "rbrace rcub"), (0xA0, "NonBreakingSpace nbsp"), (0xA1, "iexcl"), (0xA2, "cent"),
   (0xA3, "pound"), (0xA4, "curren"), (0xA5, "yen"), (0xA6, "brvbar"), (0xA7, "sect"),
   (0xA8, "Dot DoubleDot die uml"), (0xA9, "COPY copy"), (0xAA, "ordf"), (0xAB, "laquo"),
   (0xAC, "not"), (0xAD, "shy"), (0xAE, "REG circledR reg"), (0xAF, "macr strns"), (0xB0, "deg"),
   (0xB1, "PlusMinus plusmn pm"), (0xB2, "sup2"), (0xB3, "sup3"), (0xB4, "DiacriticalAcute acute"),
   (0xB5, "micro"), (0xB6, "para"), (0xB7, "CenterDot centerdot middot"), (0xB8, "Cedilla cedil"),
   (0xB9, "sup1"), (0xBA, "ordm"), (0xBB, "raquo"), (0xBC, "frac14"), (0xBD, "frac12 half"),
   (0xBE, "frac34"), (0xBF, "iquest"), (0xC0, "Agrave"), (0xC1, "Aacute"), (0xC2, "Acirc"),
   (0xC3, "Atilde"), (0xC4, "Auml"), (0xC5, "Aring angst"), (0xC6, "AElig"), (0xC7, "Ccedil"),
   (0xC8, "Egrave"), (0xC9, "Eacute"), (0xCA, "Ecirc"), (0xCB, "Euml"), (0xCC, "Igrave"),
   (0xCD, "Iacute"), (0xCE, "Icirc"), (0xCF, "Iuml"),
   (0xD0, "ETH"), (0xD1, "Ntilde"), (0xD2, "Ograve"), (0xD3, "Oacute"), (0xD4, "Ocirc"),
   (0xD5, "Otilde"), (0xD6, "Ouml"), (0xD7, "times"), (0xD8, "Oslash"), (0xD9, "Ugrave"),
   (0xDA, "Uacute"), (0xDB, "Ucirc"), (0xDC, "Uuml"), (0xDD, "Yacute"), (0xDE, "THORN"),
   (0xDF, "szlig"), (0xE0, "agrave"), (0xE1, "aacute"),
   (0xE2, "acirc"), (0xE3, "atilde"), (0xE4, "auml"), (0xE5, "aring"), (0xE6, "aelig"),
   (0xE7, "ccedil"), (0xE8, "egrave"), (0xE9, "eacute"), (0xEA, "ecirc"), (0xEB, "euml"),
   (0xEC, "igrave"), (0xED, "iacute"), (0xEE, "icirc"), (0xEF, "iuml"), (0xF0, "eth"),
   (0xF1, "ntilde"), (0xF2, "ograve"), (0xF3, "oacute"),
   (0xF4, "ocirc"), (0xF5, "otilde"), (0xF6, "ouml"), (0xF7, "div divide"), (0xF8, "oslash"),
   (0xF9, "ugrave"), (0xFA, "uacute"), (0xFB, "ucirc"), (0xFC, "uuml"), (0xFD, "yacute"),
   (0xFE, "thorn"), (0xFF, "yuml"), (0x100, "Amacr"), (0x101, "amacr"), (0x102, "Abreve"),
   (0x103, "abreve"), (0x104, "Aogon"), (0x105, "aogon"), (0x106, "Cacute"), (0x107, "cacute"),
   (0x108, "Ccirc"), (0x109, "ccirc"), (0x10A, "Cdot"), (0x10B, "cdot"), (0x10C, "Ccaron"),
   (0x10D, "ccaron"), (0x10E, "Dcaron"), (0x10F, "dcaron"), (0x110, "Dstrok"), (0x111, "dstrok"),
   (0x112, "Emacr"), (0x113, "emacr"), (0x116, "Edot"), (0x117, "edot"), (0x118, "Eogon"),
   (0x119, "eogon"), (0x11A, "Ecaron"), (0x11B, "ecaron"), (0x11C, "Gcirc"), (0x11D, "gcirc"),
   (0x11E, "Gbreve"), (0x11F, "gbreve"), (0x120, "Gdot"), (0x121, "gdot"), (0x122, "Gcedil"),
   (0x124, "Hcirc"), (0x125, "hcirc"), (0x126, "Hstrok"), (0x127, "hstrok"), (0x128, "Itilde"),
   (0x129, "itilde"), (0x12A, "Imacr"), (0x12B, "imacr"), (0x12E, "Iogon"), (0x12F, "iogon"),
   (0x130, "Idot"), (0x131, "imath inodot"), (0x132, "IJlig"), (0x133, "ijlig"), (0x134, "Jcirc"),
   (0x135, "jcirc"), (0x136, "Kcedil"), (0x137, "kcedil"), (0x138, "kgreen"), (0x139, "Lacute"),
   (0x13A, "lacute"), (0x13B, "Lcedil"), (0x13C, "lcedil"), (0x13D, "Lcaron"), (0x13E, "lcaron"),
   (0x13F, "Lmidot"), (0x140, "lmidot"), (0x141, "Lstrok"), (0x142, "lstrok"), (0x143, "Nacute"),
   (0x144, "nacute"), (0x145, "Ncedil"), (0x146, "ncedil"), (0x147, "Ncaron"), (0x148, "ncaron"),
   (0x149, "napos"), (0x14A, "ENG"), (0x14B, "eng"), (0x14C, "Omacr"), (0x14D, "omacr"),
   (0x150, "Odblac"), (0x151, "odblac"), (0x152, "OElig"), (0x153, "oelig"), (0x154, "Racute"),
   (0x155, "racute"), (0x156, "Rcedil"), (0x157, "rcedil"), (0x158, "Rcaron"), (0x159, "rcaron"),
   (0x15A, "Sacute"), (0x15B, "sacute"), (0x15C, "Scirc"), (0x15D, "scirc"), (0x15E, "Scedil"),
   (0x15F, "scedil"), (0x160, "Scaron"), (0x161, "scaron"), (0x162, "Tcedil"), (0x163, "tcedil"),
   (0x164, "Tcaron"), (0x165, "tcaron"), (0x166, "Tstrok"), (0x167, "tstrok"), (0x168, "Utilde"),
   (0x169, "utilde"), (0x16A, "Umacr"), (0x16B, "umacr"), (0x16C, "Ubreve"), (0x16D, "ubreve"),
   (0x16E, "Uring"), (0x16F, "uring"), (0x170, "Udblac"), (0x171, "udblac"), (0x172, "Uogon"),
   (0x173, "uogon"), (0x174, "Wcirc"), (0x175, "wcirc"), (0x176, "Ycirc"), (0x177, "ycirc"),
   (0x178, "Yuml"), (0x179, "Zacute"), (0x17A, "zacute"), (0x17B, "Zdot"), (0x17C, "zdot"),
   (0x17D, "Zcaron"), (0x17E, "zcaron"), (0x192, "fnof"), (0x1B5, "imped"), (0x1F5, "gacute"),
   (0x237, "jmath"), (0x2C6, "circ"), (0x2C7, "Hacek caron"), (0x2D8, "Breve breve"),
   (0x2D9, "DiacriticalDot dot"), (0x2DA, "ring"),
   (0x2DB, "ogon"), (0x2DC, "DiacriticalTilde tilde"), (0x2DD, "DiacriticalDoubleAcute dblac"),
   (0x311, "DownBreve"), (0x391, "Alpha"), (0x392, "Beta"), (0x393, "Gamma"), (0x394, "Delta"),
   (0x395, "Epsilon"), (0x396, "Zeta"), (0x397, "Eta"), (0x398, "Theta"), (0x399, "Iota"),
   (0x39A, "Kappa"), (0x39B, "Lambda"), (0x39C, "Mu"), (0x39D, "Nu"), (0x39E, "Xi"),
   (0x39F, "Omicron"), (0x3A0, "Pi"), (0x3A1, "Rho"), (0x3A3, "Sigma"), (0x3A4, "Tau"),
   (0x3A5, "Upsilon"), (0x3A6, "Phi"), (0x3A7, "Chi"),
   (0x3A8, "Psi"), (0x3A9, "Omega ohm"), (0x3B1, "alpha"), (0x3B2, "beta"), (0x3B3, "gamma"),
   (0x3B4, "delta"), (0x3B5, "epsi epsilon"), (0x3B6, "zeta"), (0x3B7, "eta"), (0x3B8, "theta"),
   (0x3B9, "iota"), (0x3BA, "kappa"), (0x3BB, "lambda"), (0x3BC, "mu"), (0x3BD, "nu"),
   (0x3BE, "xi"), (0x3BF, "omicron"), (0x3C0, "pi"), (0x3C1, "rho"),
   (0x3C2, "sigmaf sigmav varsigma"), (0x3C3, "sigma"),
   (0x3C4, "tau"), (0x3C5, "upsi upsilon"), (0x3C6, "phi"), (0x3C7, "chi"), (0x3C8, "psi"),
   (0x3C9, "omega"), (0x3D1, "thetasym thetav vartheta"), (0x3D2, "Upsi upsih"),
   (0x3D5, "phiv straightphi varphi"), (0x3D6, "piv varpi"), (0x3DC, "Gammad"),
   (0x3DD, "digamma gammad"), (0x3F0, "kappav varkappa"), (0x3F1, "rhov varrho"),
   (0x3F5, "epsiv straightepsilon varepsilon"), (0x3F6, "backepsilon bepsi"), (0x401, "IOcy"),
   (0x402, "DJcy"), (0x403, "GJcy"), (0x404, "Jukcy"),
   (0x405, "DScy"), (0x406, "Iukcy"), (0x407, "YIcy"), (0x408, "Jsercy"), (0x409, "LJcy"),
   (0x40A, "NJcy"), (0x40B, "TSHcy"), (0x40C, "KJcy"), (0x40E, "Ubrcy"), (0x40F, "DZcy"),
   (0x410, "Acy"), (0x411, "Bcy"), (0x412, "Vcy"), (0x413, "Gcy"), (0x414, "Dcy"), (0x415, "IEcy"),
   (0x416, "ZHcy"), (0x417, "Zcy"), (0x418, "Icy"), (0x419, "Jcy"), (0x41A, "Kcy"), (0x41B, "Lcy"),
   (0x41C, "Mcy"), (0x41D, "Ncy"), (0x41E, "Ocy"), (0x41F, "Pcy"), (0x420, "Rcy"), (0x421, "Scy"),
   (0x422, "Tcy"), (0x423, "Ucy"), (0x424, "Fcy"), (0x425, "KHcy"), (0x426, "TScy"),
   (0x427, "CHcy"), (0x428, "SHcy"), (0x429, "SHCHcy"),
   (0x42A, "HARDcy"), (0x42B, "Ycy"), (0x42C, "SOFTcy"), (0x42D, "Ecy"), (0x42E, "YUcy"),
   (0x42F, "YAcy"), (0x430, "acy"), (0x431, "bcy"), (0x432, "vcy"), (0x433, "gcy"), (0x434, "dcy"),
   (0x435, "iecy"), (0x436, "zhcy"), (0x437, "zcy"), (0x438, "icy"), (0x439, "jcy"), (0x43A, "kcy"),
   (0x43B, "lcy"), (0x43C, "mcy"), (0x43D, "ncy"), (0x43E, "ocy"), (0x43F, "pcy"), (0x440, "rcy"),
   (0x441, "scy"), (0x442, "tcy"), (0x443, "ucy"), (0x444, "fcy"), (0x445, "khcy"), (0x446, "tscy"),
   (0x447, "chcy"), (0x448, "shcy"), (0x449, "shchcy"), (0x44A, "hardcy"), (0x44B, "ycy"),
   (0x44C, "softcy"), (0x44D, "ecy"), (0x44E, "yucy"), (0x44F, "yacy"), (0x451, "iocy"),
   (0x452, "djcy"), (0x453, "gjcy"), (0x454, "jukcy"),
   (0x455, "dscy"), (0x456, "iukcy"), (0x457, "yicy"), (0x458, "jsercy"), (0x459, "ljcy"),
   (0x45A, "njcy"), (0x45B, "tshcy"), (0x45C, "kjcy"), (0x45E, "ubrcy"), (0x45F, "dzcy"),
   (0x2002, "ensp"), (0x2003, "emsp"), (0x2004, "emsp13"), (0x2005, "emsp14"), (0x2007, "numsp"),
   (0x2008, "puncsp"), (0x2009, "ThinSpace thinsp"), (0x200A, "VeryThinSpace hairsp"),
   (0x200B,
   "NegativeMediumSpace NegativeThickSpace NegativeThinSpace NegativeVeryThinSpace ZeroWidthSpace"),
   (0x200C, "zwnj"), (0x200D, "zwj"), (0x200E, "lrm"), (0x200F, "rlm"), (0x2010, "dash hyphen"),
   (0x2013, "ndash"), (0x2014, "mdash"), (0x2015, "horbar"), (0x2016, "Verbar Vert"),
   (0x2018, "OpenCurlyQuote lsquo"), (0x2019, "CloseCurlyQuote rsquo rsquor"),
   (0x201A, "lsquor sbquo"), (0x201C, "OpenCurlyDoubleQuote ldquo"),
   (0x201D, "CloseCurlyDoubleQuote rdquo rdquor"),
   (0x201E, "bdquo ldquor"), (0x2020, "dagger"), (0x2021, "Dagger ddagger"),
   (0x2022, "bull bullet"), (0x2025, "nldr"), (0x2026, "hellip mldr"), (0x2030, "permil"),
   (0x2031, "pertenk"), (0x2032, "prime"), (0x2033, "Prime"), (0x2034, "tprime"),
   (0x2035, "backprime bprime"), (0x2039, "lsaquo"),
   (0x203A, "rsaquo"), (0x203E, "OverBar oline"), (0x2041, "caret"), (0x2043, "hybull"),
   (0x2044, "frasl"), (0x204F, "bsemi"), (0x2057, "qprime"), (0x205F, "MediumSpace"),
   (0x2060, "NoBreak"), (0x2061, "ApplyFunction af"), (0x2062, "InvisibleTimes it"),
   (0x2063, "InvisibleComma ic"), (0x20AC, "euro"), (0x20DB, "TripleDot tdot"), (0x20DC, "DotDot"),
   (0x2102, "Copf complexes"), (0x2105, "incare"), (0x210A, "gscr"),
   (0x210B, "HilbertSpace Hscr hamilt"), (0x210C, "Hfr Poincareplane"),
   (0x210D, "Hopf quaternions"), (0x210E, "planckh"),
   (0x210F, "hbar hslash planck plankv"), (0x2110, "Iscr imagline"),
   (0x2111, "Ifr Im image imagpart"), (0x2112, "Laplacetrf Lscr lagran"), (0x2113, "ell"),
   (0x2115, "Nopf naturals"), (0x2116, "numero"),
   (0x2117, "copysr"), (0x2118, "weierp wp"), (0x2119, "Popf primes"), (0x211A, "Qopf rationals"),
   (0x211B, "Rscr realine"), (0x211C, "Re Rfr real realpart"), (0x211D, "Ropf reals"),
   (0x211E, "rx"), (0x2122, "TRADE trade"), (0x2124, "Zopf integers"), (0x2127, "mho"),
   (0x2128, "Zfr zeetrf"), (0x2129, "iiota"), (0x212C, "Bernoullis Bscr bernou"),
   (0x212D, "Cayleys Cfr"), (0x212F, "escr"), (0x2130, "Escr expectation"),
   (0x2131, "Fouriertrf Fscr"), (0x2133, "Mellintrf Mscr phmmat"),
   (0x2134, "order orderof oscr"), (0x2135, "alefsym aleph"), (0x2136, "beth"), (0x2137, "gimel"),
   (0x2138, "daleth"), (0x2145, "CapitalDifferentialD DD"), (0x2146, "DifferentialD dd"),
   (0x2147, "ExponentialE ee exponentiale"), (0x2148, "ImaginaryI ii"), (0x2153, "frac13"),
   (0x2154, "frac23"), (0x2155, "frac15"), (0x2156, "frac25"), (0x2157, "frac35"),
   (0x2158, "frac45"), (0x2159, "frac16"), (0x215A, "frac56"), (0x215B, "frac18"),
   (0x215C, "frac38"), (0x215D, "frac58"), (0x215E, "frac78")]

/-- The names of arrows, mathematical operators and technical characters. -/
def namedOperators : List (Nat × String) :=
  [(0x2190, "LeftArrow ShortLeftArrow larr leftarrow slarr"),
    (0x2191, "ShortUpArrow UpArrow uarr uparrow"),
   (0x2192, "RightArrow ShortRightArrow rarr rightarrow srarr"),
   (0x2193, "DownArrow ShortDownArrow darr downarrow"),
   (0x2194, "LeftRightArrow harr leftrightarrow"),
   (0x2195, "UpDownArrow updownarrow varr"), (0x2196, "UpperLeftArrow nwarr nwarrow"),
   (0x2197, "UpperRightArrow nearr nearrow"), (0x2198, "LowerRightArrow searr searrow"),
   (0x2199, "LowerLeftArrow swarr swarrow"), (0x219A, "nlarr nleftarrow"),
   (0x219B, "nrarr nrightarrow"), (0x219D, "rarrw rightsquigarrow"),
   (0x219E, "Larr twoheadleftarrow"), (0x219F, "Uarr"),
   (0x21A0, "Rarr twoheadrightarrow"), (0x21A1, "Darr"), (0x21A2, "larrtl leftarrowtail"),
   (0x21A3, "rarrtl rightarrowtail"), (0x21A4, "LeftTeeArrow mapstoleft"),
   (0x21A5, "UpTeeArrow mapstoup"), (0x21A6, "RightTeeArrow map mapsto"),
   (0x21A7, "DownTeeArrow mapstodown"), (0x21A9, "hookleftarrow larrhk"),
   (0x21AA, "hookrightarrow rarrhk"), (0x21AB, "larrlp looparrowleft"),
   (0x21AC, "looparrowright rarrlp"), (0x21AD, "harrw leftrightsquigarrow"),
   (0x21AE, "nharr nleftrightarrow"), (0x21B0, "Lsh lsh"), (0x21B1, "Rsh rsh"), (0x21B2, "ldsh"),
   (0x21B3, "rdsh"), (0x21B5, "crarr"), (0x21B6, "cularr curvearrowleft"),
   (0x21B7, "curarr curvearrowright"), (0x21BA, "circlearrowleft olarr"),
   (0x21BB, "circlearrowright orarr"), (0x21BC, "LeftVector leftharpoonup lharu"),
   (0x21BD, "DownLeftVector leftharpoondown lhard"), (0x21BE, "RightUpVector uharr upharpoonright"),
   (0x21BF, "LeftUpVector uharl upharpoonleft"), (0x21C0, "RightVector rharu rightharpoonup"),
   (0x21C1, "DownRightVector rhard rightharpoondown"),
   (0x21C2, "RightDownVector dharr downharpoonright"),
   (0x21C3, "LeftDownVector dharl downharpoonleft"),
   (0x21C4, "RightArrowLeftArrow rightleftarrows rlarr"),
   (0x21C5, "UpArrowDownArrow udarr"), (0x21C6, "LeftArrowRightArrow leftrightarrows lrarr"),
   (0x21C7, "leftleftarrows llarr"), (0x21C8, "upuparrows uuarr"),
   (0x21C9, "rightrightarrows rrarr"), (0x21CA, "ddarr downdownarrows"),
   (0x21CB, "ReverseEquilibrium leftrightharpoons lrhar"),
   (0x21CC, "Equilibrium rightleftharpoons rlhar"), (0x21CD, "nLeftarrow nlArr"),
   (0x21CE, "nLeftrightarrow nhArr"), (0x21CF, "nRightarrow nrArr"),
   (0x21D0, "DoubleLeftArrow Leftarrow lArr"), (0x21D1, "DoubleUpArrow Uparrow uArr"),
   (0x21D2, "DoubleRightArrow Implies Rightarrow rArr"), (0x21D3, "DoubleDownArrow Downarrow dArr"),
   (0x21D4, "DoubleLeftRightArrow Leftrightarrow hArr iff"),
   (0x21D5, "DoubleUpDownArrow Updownarrow vArr"),
   (0x21D6, "nwArr"), (0x21D7, "neArr"), (0x21D8, "seArr"), (0x21D9, "swArr"),
   (0x21DA, "Lleftarrow lAarr"), (0x21DB, "Rrightarrow rAarr"), (0x21DD, "zigrarr"),
   (0x21E4, "LeftArrowBar larrb"), (0x21E5, "RightArrowBar rarrb"),
   (0x21F5, "DownArrowUpArrow duarr"), (0x21FD, "loarr"),
   (0x21FE, "roarr"), (0x21FF, "hoarr"), (0x2200, "ForAll forall"), (0x2201, "comp complement"),
   (0x2202, "PartialD part"), (0x2203, "Exists exist"), (0x2204, "NotExists nexist nexists"),
   (0x2205, "empty emptyset emptyv varnothing"), (0x2207, "Del nabla"),
   (0x2208, "Element in isin isinv"), (0x2209, "NotElement notin notinva"),
   (0x220B, "ReverseElement SuchThat ni niv"), (0x220C, "NotReverseElement notni notniva"),
   (0x220F, "Product prod"), (0x2210, "Coproduct coprod"),
   (0x2211, "Sum sum"), (0x2212, "minus"), (0x2213, "MinusPlus mnplus mp"),
   (0x2214, "dotplus plusdo"), (0x2216, "Backslash setminus setmn smallsetminus ssetmn"),
   (0x2217, "lowast"), (0x2218, "SmallCircle compfn"), (0x221A, "Sqrt radic"),
   (0x221D, "Proportional prop propto varpropto vprop"), (0x221E, "infin"), (0x221F, "angrt"),
   (0x2220, "ang angle"), (0x2221, "angmsd measuredangle"), (0x2222, "angsph"),
   (0x2223, "VerticalBar mid shortmid smid"), (0x2224, "NotVerticalBar nmid nshortmid nsmid"),
   (0x2225, "DoubleVerticalBar par parallel shortparallel spar"),
   (0x2226, "NotDoubleVerticalBar npar nparallel nshortparallel nspar"), (0x2227, "and wedge"),
   (0x2228, "or vee"), (0x2229, "cap"), (0x222A, "cup"), (0x222B, "Integral int"), (0x222C, "Int"),
   (0x222D, "iiint tint"), (0x222E, "ContourIntegral conint oint"),
   (0x222F, "Conint DoubleContourIntegral"), (0x2230, "Cconint"), (0x2231, "cwint"),
   (0x2232, "ClockwiseContourIntegral cwconint"),
   (0x2233, "CounterClockwiseContourIntegral awconint"),
   (0x2234, "Therefore there4 therefore"), (0x2235, "Because becaus because"), (0x2236, "ratio"),
   (0x2237, "Colon Proportion"), (0x2238, "dotminus minusd"), (0x223A, "mDDot"), (0x223B, "homtht"),
   (0x223C, "Tilde sim thicksim thksim"), (0x223D, "backsim bsim"), (0x223E, "ac mstpos"),
   (0x223F, "acd"), (0x2240, "VerticalTilde wr wreath"), (0x2241, "NotTilde nsim"),
   (0x2242, "EqualTilde eqsim esim"), (0x2243, "TildeEqual sime simeq"),
   (0x2244, "NotTildeEqual nsime nsimeq"), (0x2245, "TildeFullEqual cong"), (0x2246, "simne"),
   (0x2247, "NotTildeFullEqual ncong"), (0x2248, "TildeTilde ap approx asymp thickapprox thkap"),
   (0x2249, "NotTildeTilde nap napprox"), (0x224A, "ape approxeq"), (0x224B, "apid"),
   (0x224C, "backcong bcong"), (0x224D, "CupCap asympeq"),
   (0x224E, "Bumpeq HumpDownHump bump"), (0x224F, "HumpEqual bumpe bumpeq"),
   (0x2250, "DotEqual doteq esdot"), (0x2251, "doteqdot eDot"), (0x2252, "efDot fallingdotseq"),
   (0x2253, "erDot risingdotseq"), (0x2254, "Assign colone coloneq"), (0x2255, "ecolon eqcolon"),
   (0x2256, "ecir eqcirc"), (0x2257, "circeq cire"), (0x2259, "wedgeq"), (0x225A, "veeeq"),
   (0x225C, "triangleq trie"), (0x225F, "equest questeq"), (0x2260, "NotEqual ne"),
   (0x2261, "Congruent equiv"), (0x2262, "NotCongruent nequiv"), (0x2264, "le leq"),
   (0x2265, "GreaterEqual ge geq"), (0x2266, "LessFullEqual lE leqq"),
   (0x2267, "GreaterFullEqual gE geqq"), (0x2268, "lnE lneqq"), (0x2269, "gnE gneqq"),
   (0x226A, "Lt NestedLessLess ll"), (0x226B, "Gt NestedGreaterGreater gg"),
   (0x226C, "between twixt"), (0x226D, "NotCupCap"),
   (0x226E, "NotLess nless nlt"), (0x226F, "NotGreater ngt ngtr"),
   (0x2270, "NotLessEqual nle nleq"), (0x2271, "NotGreaterEqual nge ngeq"),
   (0x2272, "LessTilde lesssim lsim"), (0x2273, "GreaterTilde gsim gtrsim"),
   (0x2274, "NotLessTilde nlsim"), (0x2275, "NotGreaterTilde ngsim"),
   (0x2276, "LessGreater lessgtr lg"), (0x2277, "GreaterLess gl gtrless"),
   (0x2278, "NotLessGreater ntlg"), (0x2279, "NotGreaterLess ntgl"), (0x227A, "Precedes pr prec"),
   (0x227B, "Succeeds sc succ"), (0x227C, "PrecedesSlantEqual prcue preccurlyeq"),
   (0x227D, "SucceedsSlantEqual sccue succcurlyeq"),
   (0x227E, "PrecedesTilde precsim prsim"), (0x227F, "SucceedsTilde scsim succsim"),
   (0x2280, "NotPrecedes npr nprec"), (0x2281, "NotSucceeds nsc nsucc"), (0x2282, "sub subset"),
   (0x2283, "Superset sup supset"), (0x2284, "nsub"), (0x2285, "nsup"),
   (0x2286, "SubsetEqual sube subseteq"), (0x2287, "SupersetEqual supe supseteq"),
   (0x2288, "NotSubsetEqual nsube nsubseteq"), (0x2289, "NotSupersetEqual nsupe nsupseteq"),
   (0x228A, "subne subsetneq"), (0x228B, "supne supsetneq"), (0x228D, "cupdot"),
   (0x228E, "UnionPlus uplus"), (0x228F, "SquareSubset sqsub sqsubset"),
   (0x2290, "SquareSuperset sqsup sqsupset"), (0x2291, "SquareSubsetEqual sqsube sqsubseteq"),
   (0x2292, "SquareSupersetEqual sqsupe sqsupseteq"), (0x2293, "SquareIntersection sqcap"),
   (0x2294, "SquareUnion sqcup"), (0x2295, "CirclePlus oplus"), (0x2296, "CircleMinus ominus"),
   (0x2297, "CircleTimes otimes"), (0x2298, "osol"), (0x2299, "CircleDot odot"),
   (0x229A, "circledcirc ocir"), (0x229B, "circledast oast"), (0x229D, "circleddash odash"),
   (0x229E, "boxplus plusb"), (0x229F, "boxminus minusb"), (0x22A0, "boxtimes timesb"),
   (0x22A1, "dotsquare sdotb"), (0x22A2, "RightTee vdash"), (0x22A3, "LeftTee dashv"),
   (0x22A4, "DownTee top"), (0x22A5, "UpTee bot bottom perp"), (0x22A7, "models"),
   (0x22A8, "DoubleRightTee vDash"), (0x22A9, "Vdash"), (0x22AA, "Vvdash"), (0x22AB, "VDash"),
   (0x22AC, "nvdash"), (0x22AD, "nvDash"), (0x22AE, "nVdash"), (0x22AF, "nVDash"),
   (0x22B0, "prurel"), (0x22B2, "LeftTriangle vartriangleleft vltri"),
   (0x22B3, "RightTriangle vartriangleright vrtri"),
   (0x22B4, "LeftTriangleEqual ltrie trianglelefteq"),
   (0x22B5, "RightTriangleEqual rtrie trianglerighteq"),
   (0x22B6, "origof"), (0x22B7, "imof"), (0x22B8, "multimap mumap"), (0x22B9, "hercon"),
   (0x22BA, "intcal intercal"), (0x22BB, "veebar"), (0x22BD, "barvee"), (0x22BE, "angrtvb"),
   (0x22BF, "lrtri"), (0x22C0, "Wedge bigwedge xwedge"), (0x22C1, "Vee bigvee xvee"),
   (0x22C2, "Intersection bigcap xcap"), (0x22C3, "Union bigcup xcup"),
   (0x22C4, "Diamond diam diamond"), (0x22C5, "sdot"), (0x22C6, "Star sstarf"),
   (0x22C7, "divideontimes divonx"), (0x22C8, "bowtie"),
   (0x22C9, "ltimes"), (0x22CA, "rtimes"), (0x22CB, "leftthreetimes lthree"),
   (0x22CC, "rightthreetimes rthree"), (0x22CD, "backsimeq bsime"), (0x22CE, "curlyvee cuvee"),
   (0x22CF, "curlywedge cuwed"), (0x22D0, "Sub Subset"), (0x22D1, "Sup Supset"), (0x22D2, "Cap"),
   (0x22D3, "Cup"), (0x22D4, "fork pitchfork"), (0x22D5, "epar"), (0x22D6, "lessdot ltdot"),
   (0x22D7, "gtdot gtrdot"), (0x22D8, "Ll"), (0x22D9, "Gg ggg"),
   (0x22DA, "LessEqualGreater leg lesseqgtr"), (0x22DB, "GreaterEqualLess gel gtreqless"),
   (0x22DE, "cuepr curlyeqprec"), (0x22DF, "cuesc curlyeqsucc"),
   (0x22E0, "NotPrecedesSlantEqual nprcue"), (0x22E1, "NotSucceedsSlantEqual nsccue"),
   (0x22E2, "NotSquareSubsetEqual nsqsube"), (0x22E3, "NotSquareSupersetEqual nsqsupe"),
   (0x22E6, "lnsim"), (0x22E7, "gnsim"), (0x22E8, "precnsim prnsim"), (0x22E9, "scnsim succnsim"),
   (0x22EA, "NotLeftTriangle nltri ntriangleleft"),
   (0x22EB, "NotRightTriangle nrtri ntriangleright"),
   (0x22EC, "NotLeftTriangleEqual nltrie ntrianglelefteq"),
   (0x22ED, "NotRightTriangleEqual nrtrie ntrianglerighteq"), (0x22EE, "vellip"), (0x22EF, "ctdot"),
   (0x22F0, "utdot"), (0x22F1, "dtdot"), (0x22F2, "disin"), (0x22F3, "isinsv"), (0x22F4, "isins"),
   (0x22F5, "isindot"), (0x22F6, "notinvc"), (0x22F7, "notinvb"), (0x22F9, "isinE"),
   (0x22FA, "nisd"), (0x22FB, "xnis"), (0x22FC, "nis"), (0x22FD, "notnivc"), (0x22FE, "notnivb"),
   (0x2305, "barwed barwedge"), (0x2306, "Barwed doublebarwedge"), (0x2308, "LeftCeiling lceil"),
   (0x2309, "RightCeiling rceil"), (0x230A, "LeftFloor lfloor"), (0x230B, "RightFloor rfloor"),
   (0x230C, "drcrop"), (0x230D, "dlcrop"), (0x230E, "urcrop"), (0x230F, "ulcrop"), (0x2310, "bnot"),
   (0x2312, "profline"), (0x2313, "profsurf"), (0x2315, "telrec"), (0x2316, "target"),
   (0x231C, "ulcorn ulcorner"), (0x231D, "urcorn urcorner"),
   (0x231E, "dlcorn llcorner"), (0x231F, "drcorn lrcorner"), (0x2322, "frown sfrown"),
   (0x2323, "smile ssmile"), (0x232D, "cylcty"), (0x232E, "profalar"), (0x2336, "topbot"),
   (0x233D, "ovbar"), (0x233F, "solbar"), (0x237C, "angzarr"), (0x23B0, "lmoust lmoustache"),
   (0x23B1, "rmoust rmoustache"), (0x23B4, "OverBracket tbrk"), (0x23B5, "UnderBracket bbrk"),
   (0x23B6, "bbrktbrk"), (0x23DC, "OverParenthesis"), (0x23DD, "UnderParenthesis"),
   (0x23DE, "OverBrace"), (0x23DF, "UnderBrace"), (0x23E2, "trpezium"), (0x23E7, "elinters"),
   (0x2423, "blank"), (0x24C8, "circledS oS")]

/-- The names of shapes and of all characters behind them. -/
def namedShapes : List (Nat × String) :=
  [(0x2500, "HorizontalLine boxh"), (0x2502, "boxv"), (0x250C, "boxdr"), (0x2510, "boxdl"),
   (0x2514, "boxur"), (0x2518, "boxul"), (0x251C, "boxvr"), (0x2524, "boxvl"), (0x252C, "boxhd"),
   (0x2534, "boxhu"), (0x253C, "boxvh"), (0x2550, "boxH"), (0x2551, "boxV"), (0x2552, "boxdR"),
   (0x2553, "boxDr"), (0x2554, "boxDR"), (0x2555, "boxdL"), (0x2556, "boxDl"), (0x2557, "boxDL"),
   (0x2558, "boxuR"), (0x2559, "boxUr"), (0x255A, "boxUR"), (0x255B, "boxuL"), (0x255C, "boxUl"),
   (0x255D, "boxUL"), (0x255E, "boxvR"), (0x255F, "boxVr"), (0x2560, "boxVR"), (0x2561, "boxvL"),
   (0x2562, "boxVl"), (0x2563, "boxVL"), (0x2564, "boxHd"), (0x2565, "boxhD"), (0x2566, "boxHD"),
   (0x2567, "boxHu"), (0x2568, "boxhU"), (0x2569, "boxHU"), (0x256A, "boxvH"), (0x256B, "boxVh"),
   (0x256C, "boxVH"), (0x2580, "uhblk"), (0x2584, "lhblk"), (0x2588, "block"), (0x2591, "blk14"),
   (0x2592, "blk12"), (0x2593, "blk34"), (0x25A1, "Square squ square"),
   (0x25AA, "FilledVerySmallSquare blacksquare squarf squf"), (0x25AB, "EmptyVerySmallSquare"),
   (0x25AD, "rect"), (0x25AE, "marker"), (0x25B1, "fltns"), (0x25B3, "bigtriangleup xutri"),
   (0x25B4, "blacktriangle utrif"), (0x25B5, "triangle utri"), (0x25B8, "blacktriangleright rtrif"),
   (0x25B9, "rtri triangleright"), (0x25BD, "bigtriangledown xdtri"),
   (0x25BE, "blacktriangledown dtrif"), (0x25BF, "dtri triangledown"),
   (0x25C2, "blacktriangleleft ltrif"), (0x25C3, "ltri triangleleft"),
   (0x25CA, "loz lozenge"), (0x25CB, "cir"), (0x25EC, "tridot"), (0x25EF, "bigcirc xcirc"),
   (0x25F8, "ultri"), (0x25F9, "urtri"), (0x25FA, "lltri"), (0x25FB, "EmptySmallSquare"),
   (0x25FC, "FilledSmallSquare"), (0x2605, "bigstar starf"), (0x2606, "star"), (0x260E, "phone"),
   (0x2640, "female"), (0x2642, "male"), (0x2660, "spades spadesuit"), (0x2663, "clubs clubsuit"),
   (0x2665, "hearts heartsuit"), (0x2666, "diamondsuit diams"), (0x266A, "sung"), (0x266D, "flat"),
   (0x266E, "natur natural"), (0x266F, "sharp"), (0x2713, "check checkmark"), (0x2717, "cross"),
   (0x2720, "malt maltese"), (0x2736, "sext"), (0x2758, "VerticalSeparator"), (0x2772, "lbbrk"),
   (0x2773, "rbbrk"), (0x27C8, "bsolhsub"), (0x27C9, "suphsol"),
   (0x27E6, "LeftDoubleBracket lobrk"), (0x27E7, "RightDoubleBracket robrk"),
   (0x27E8, "LeftAngleBracket lang langle"), (0x27E9, "RightAngleBracket rang rangle"),
   (0x27EA, "Lang"), (0x27EB, "Rang"), (0x27EC, "loang"),
   (0x27ED, "roang"), (0x27F5, "LongLeftArrow longleftarrow xlarr"),
   (0x27F6, "LongRightArrow longrightarrow xrarr"),
   (0x27F7, "LongLeftRightArrow longleftrightarrow xharr"),
   (0x27F8, "DoubleLongLeftArrow Longleftarrow xlArr"),
   (0x27F9, "DoubleLongRightArrow Longrightarrow xrArr"),
   (0x27FA, "DoubleLongLeftRightArrow Longleftrightarrow xhArr"), (0x27FC, "longmapsto xmap"),
   (0x27FF, "dzigrarr"), (0x2902, "nvlArr"), (0x2903, "nvrArr"), (0x2904, "nvHarr"),
   (0x2905, "Map"), (0x290C, "lbarr"), (0x290D, "bkarow rbarr"), (0x290E, "lBarr"),
   (0x290F, "dbkarow rBarr"), (0x2910, "RBarr drbkarow"), (0x2911, "DDotrahd"),
   (0x2912, "UpArrowBar"), (0x2913, "DownArrowBar"),
   (0x2916, "Rarrtl"), (0x2919, "latail"), (0x291A, "ratail"), (0x291B, "lAtail"),
   (0x291C, "rAtail"), (0x291D, "larrfs"), (0x291E, "rarrfs"), (0x291F, "larrbfs"),
   (0x2920, "rarrbfs"), (0x2923, "nwarhk"), (0x2924, "nearhk"), (0x2925, "hksearow searhk"),
   (0x2926, "hkswarow swarhk"), (0x2927, "nwnear"),
   (0x2928, "nesear toea"), (0x2929, "seswar tosa"), (0x292A, "swnwar"), (0x2933, "rarrc"),
   (0x2935, "cudarrr"), (0x2936, "ldca"), (0x2937, "rdca"), (0x2938, "cudarrl"), (0x2939, "larrpl"),
   (0x293C, "curarrm"), (0x293D, "cularrp"), (0x2945, "rarrpl"), (0x2948, "harrcir"),
   (0x2949, "Uarrocir"), (0x294A, "lurdshar"), (0x294B, "ldrushar"), (0x294E, "LeftRightVector"),
   (0x294F, "RightUpDownVector"), (0x2950, "DownLeftRightVector"), (0x2951, "LeftUpDownVector"),
   (0x2952, "LeftVectorBar"), (0x2953, "RightVectorBar"), (0x2954, "RightUpVectorBar"),
   (0x2955, "RightDownVectorBar"), (0x2956, "DownLeftVectorBar"), (0x2957, "DownRightVectorBar"),
   (0x2958, "LeftUpVectorBar"), (0x2959, "LeftDownVectorBar"), (0x295A, "LeftTeeVector"),
   (0x295B, "RightTeeVector"), (0x295C, "RightUpTeeVector"), (0x295D, "RightDownTeeVector"),
   (0x295E, "DownLeftTeeVector"), (0x295F, "DownRightTeeVector"), (0x2960, "LeftUpTeeVector"),
   (0x2961, "LeftDownTeeVector"), (0x2962, "lHar"), (0x2963, "uHar"), (0x2964, "rHar"),
   (0x2965, "dHar"), (0x2966, "luruhar"), (0x2967, "ldrdhar"), (0x2968, "ruluhar"),
   (0x2969, "rdldhar"), (0x296A, "lharul"), (0x296B, "llhard"),
   (0x296C, "rharul"), (0x296D, "lrhard"), (0x296E, "UpEquilibrium udhar"),
   (0x296F, "ReverseUpEquilibrium duhar"), (0x2970, "RoundImplies"), (0x2971, "erarr"),
   (0x2972, "simrarr"), (0x2973, "larrsim"), (0x2974, "rarrsim"), (0x2975, "rarrap"),
   (0x2976, "ltlarr"), (0x2978, "gtrarr"), (0x2979, "subrarr"), (0x297B, "suplarr"),
   (0x297C, "lfisht"), (0x297D, "rfisht"), (0x297E, "ufisht"),
   (0x297F, "dfisht"), (0x2985, "lopar"), (0x2986, "ropar"), (0x298B, "lbrke"), (0x298C, "rbrke"),
   (0x298D, "lbrkslu"), (0x298E, "rbrksld"), (0x298F, "lbrksld"), (0x2990, "rbrkslu"),
   (0x2991, "langd"), (0x2992, "rangd"), (0x2993, "lparlt"), (0x2994, "rpargt"), (0x2995, "gtlPar"),
   (0x2996, "ltrPar"), (0x299A, "vzigzag"), (0x299C, "vangrt"), (0x299D, "angrtvbd"),
   (0x29A4, "ange"), (0x29A5, "range"), (0x29A6, "dwangle"), (0x29A7, "uwangle"),
   (0x29A8, "angmsdaa"), (0x29A9, "angmsdab"), (0x29AA, "angmsdac"), (0x29AB, "angmsdad"),
   (0x29AC, "angmsdae"), (0x29AD, "angmsdaf"), (0x29AE, "angmsdag"), (0x29AF, "angmsdah"),
   (0x29B0, "bemptyv"), (0x29B1, "demptyv"), (0x29B2, "cemptyv"), (0x29B3, "raemptyv"),
   (0x29B4, "laemptyv"), (0x29B5, "ohbar"), (0x29B6, "omid"),
   (0x29B7, "opar"), (0x29B9, "operp"), (0x29BB, "olcross"), (0x29BC, "odsold"), (0x29BE, "olcir"),
   (0x29BF, "ofcir"), (0x29C0, "olt"), (0x29C1, "ogt"), (0x29C2, "cirscir"), (0x29C3, "cirE"),
   (0x29C4, "solb"), (0x29C5, "bsolb"), (0x29C9, "boxbox"), (0x29CD, "trisb"), (0x29CE, "rtriltri"),
   (0x29CF, "LeftTriangleBar"), (0x29D0, "RightTriangleBar"), (0x29DC, "iinfin"),
   (0x29DD, "infintie"), (0x29DE, "nvinfin"), (0x29E3, "eparsl"), (0x29E4, "smeparsl"),
   (0x29E5, "eqvparsl"), (0x29EB, "blacklozenge lozf"), (0x29F4, "RuleDelayed"), (0x29F6, "dsol"),
   (0x2A00, "bigodot xodot"), (0x2A01, "bigoplus xoplus"), (0x2A02, "bigotimes xotime"),
   (0x2A04, "biguplus xuplus"), (0x2A06, "bigsqcup xsqcup"), (0x2A0C, "iiiint qint"),
   (0x2A0D, "fpartint"), (0x2A10, "cirfnint"), (0x2A11, "awint"), (0x2A12, "rppolint"),
   (0x2A13, "scpolint"), (0x2A14, "npolint"), (0x2A15, "pointint"),
   (0x2A16, "quatint"), (0x2A17, "intlarhk"), (0x2A22, "pluscir"), (0x2A23, "plusacir"),
   (0x2A24, "simplus"), (0x2A25, "plusdu"), (0x2A26, "plussim"), (0x2A27, "plustwo"),
   (0x2A29, "mcomma"), (0x2A2A, "minusdu"), (0x2A2D, "loplus"), (0x2A2E, "roplus"),
   (0x2A2F, "Cross"), (0x2A30, "timesd"), (0x2A31, "timesbar"), (0x2A33, "smashp"),
   (0x2A34, "lotimes"), (0x2A35, "rotimes"), (0x2A36, "otimesas"),
   (0x2A37, "Otimes"), (0x2A38, "odiv"), (0x2A39, "triplus"), (0x2A3A, "triminus"),
   (0x2A3B, "tritime"), (0x2A3C, "intprod iprod"), (0x2A3F, "amalg"), (0x2A40, "capdot"),
   (0x2A42, "ncup"), (0x2A43, "ncap"), (0x2A44, "capand"), (0x2A45, "cupor"), (0x2A46, "cupcap"),
   (0x2A47, "capcup"), (0x2A48, "cupbrcap"), (0x2A49, "capbrcup"), (0x2A4A, "cupcup"),
   (0x2A4B, "capcap"), (0x2A4C, "ccups"), (0x2A4D, "ccaps"),
   (0x2A50, "ccupssm"), (0x2A53, "And"), (0x2A54, "Or"), (0x2A55, "andand"), (0x2A56, "oror"),
   (0x2A57, "orslope"), (0x2A58, "andslope"), (0x2A5A, "andv"), (0x2A5B, "orv"), (0x2A5C, "andd"),
   (0x2A5D, "ord"), (0x2A5F, "wedbar"), (0x2A66, "sdote"), (0x2A6A, "simdot"), (0x2A6D, "congdot"),
   (0x2A6E, "easter"), (0x2A6F, "apacir"), (0x2A70, "apE"), (0x2A71, "eplus"), (0x2A72, "pluse"),
   (0x2A73, "Esim"), (0x2A74, "Colone"), (0x2A75, "Equal"), (0x2A77, "ddotseq eDDot"),
   (0x2A78, "equivDD"), (0x2A79, "ltcir"), (0x2A7A, "gtcir"), (0x2A7B, "ltquest"),
   (0x2A7C, "gtquest"), (0x2A7D, "LessSlantEqual leqslant les"),
   (0x2A7E, "GreaterSlantEqual geqslant ges"), (0x2A7F, "lesdot"),
   (0x2A80, "gesdot"), (0x2A81, "lesdoto"), (0x2A82, "gesdoto"), (0x2A83, "lesdotor"),
   (0x2A84, "gesdotol"), (0x2A85, "lap lessapprox"), (0x2A86, "gap gtrapprox"),
   (0x2A87, "lne lneq"), (0x2A88, "gne gneq"), (0x2A89, "lnap lnapprox"), (0x2A8A, "gnap gnapprox"),
   (0x2A8B, "lEg lesseqqgtr"), (0x2A8C, "gEl gtreqqless"), (0x2A8D, "lsime"), (0x2A8E, "gsime"),
   (0x2A8F, "lsimg"), (0x2A90, "gsiml"), (0x2A91, "lgE"), (0x2A92, "glE"), (0x2A93, "lesges"),
   (0x2A94, "gesles"), (0x2A95, "els eqslantless"),
   (0x2A96, "egs eqslantgtr"), (0x2A97, "elsdot"), (0x2A98, "egsdot"), (0x2A99, "el"),
   (0x2A9A, "eg"), (0x2A9D, "siml"), (0x2A9E, "simg"), (0x2A9F, "simlE"), (0x2AA0, "simgE"),
   (0x2AA1, "LessLess"), (0x2AA2, "GreaterGreater"), (0x2AA4, "glj"), (0x2AA5, "gla"),
   (0x2AA6, "ltcc"), (0x2AA7, "gtcc"), (0x2AA8, "lescc"), (0x2AA9, "gescc"), (0x2AAA, "smt"),
   (0x2AAB, "lat"), (0x2AAC, "smte"), (0x2AAD, "late"), (0x2AAE, "bumpE"),
   (0x2AAF, "PrecedesEqual pre preceq"), (0x2AB0, "SucceedsEqual sce succeq"), (0x2AB3, "prE"),
   (0x2AB4, "scE"), (0x2AB5, "precneqq prnE"), (0x2AB6, "scnE succneqq"),
   (0x2AB7, "prap precapprox"), (0x2AB8, "scap succapprox"),
   (0x2AB9, "precnapprox prnap"), (0x2ABA, "scnap succnapprox"), (0x2ABB, "Pr"), (0x2ABC, "Sc"),
   (0x2ABD, "subdot"), (0x2ABE, "supdot"), (0x2ABF, "subplus"), (0x2AC0, "supplus"),
   (0x2AC1, "submult"), (0x2AC2, "supmult"), (0x2AC3, "subedot"), (0x2AC4, "supedot"),
   (0x2AC5, "subE subseteqq"), (0x2AC6, "supE supseteqq"), (0x2AC7, "subsim"), (0x2AC8, "supsim"),
   (0x2ACB, "subnE subsetneqq"), (0x2ACC, "supnE supsetneqq"), (0x2ACF, "csub"), (0x2AD0, "csup"),
   (0x2AD1, "csube"), (0x2AD2, "csupe"), (0x2AD3, "subsup"), (0x2AD4, "supsub"), (0x2AD5, "subsub"),
   (0x2AD6, "supsup"), (0x2AD7, "suphsub"), (0x2AD8, "supdsub"), (0x2AD9, "forkv"),
   (0x2ADA, "topfork"), (0x2ADB, "mlcp"), (0x2AE4, "Dashv DoubleLeftTee"), (0x2AE6, "Vdashl"),
   (0x2AE7, "Barv"), (0x2AE8, "vBar"), (0x2AE9, "vBarv"), (0x2AEB, "Vbar"), (0x2AEC, "Not"),
   (0x2AED, "bNot"), (0x2AEE, "rnmid"), (0x2AEF, "cirmid"), (0x2AF0, "midcir"), (0x2AF1, "topcir"),
   (0x2AF2, "nhpar"), (0x2AF3, "parsim"), (0x2AFD, "parsl"), (0xFB00, "fflig"), (0xFB01, "filig"),
   (0xFB02, "fllig"), (0xFB03, "ffilig"), (0xFB04, "ffllig"), (0x1D49C, "Ascr"), (0x1D49E, "Cscr"),
   (0x1D49F, "Dscr"), (0x1D4A2, "Gscr"), (0x1D4A5, "Jscr"), (0x1D4A6, "Kscr"), (0x1D4A9, "Nscr"),
   (0x1D4AA, "Oscr"), (0x1D4AB, "Pscr"), (0x1D4AC, "Qscr"), (0x1D4AE, "Sscr"), (0x1D4AF, "Tscr"),
   (0x1D4B0, "Uscr"), (0x1D4B1, "Vscr"), (0x1D4B2, "Wscr"), (0x1D4B3, "Xscr"), (0x1D4B4, "Yscr"),
   (0x1D4B5, "Zscr"), (0x1D4B6, "ascr"), (0x1D4B7, "bscr"), (0x1D4B8, "cscr"), (0x1D4B9, "dscr"),
   (0x1D4BB, "fscr"), (0x1D4BD, "hscr"), (0x1D4BE, "iscr"), (0x1D4BF, "jscr"), (0x1D4C0, "kscr"),
   (0x1D4C1, "lscr"), (0x1D4C2, "mscr"), (0x1D4C3, "nscr"), (0x1D4C5, "pscr"), (0x1D4C6, "qscr"),
   (0x1D4C7, "rscr"), (0x1D4C8, "sscr"), (0x1D4C9, "tscr"), (0x1D4CA, "uscr"), (0x1D4CB, "vscr"),
   (0x1D4CC, "wscr"), (0x1D4CD, "xscr"), (0x1D4CE, "yscr"), (0x1D4CF, "zscr"), (0x1D504, "Afr"),
   (0x1D505, "Bfr"), (0x1D507, "Dfr"), (0x1D508, "Efr"), (0x1D509, "Ffr"), (0x1D50A, "Gfr"),
   (0x1D50D, "Jfr"), (0x1D50E, "Kfr"), (0x1D50F, "Lfr"), (0x1D510, "Mfr"), (0x1D511, "Nfr"),
   (0x1D512, "Ofr"), (0x1D513, "Pfr"), (0x1D514, "Qfr"), (0x1D516, "Sfr"), (0x1D517, "Tfr"),
   (0x1D518, "Ufr"), (0x1D519, "Vfr"), (0x1D51A, "Wfr"), (0x1D51B, "Xfr"), (0x1D51C, "Yfr"),
   (0x1D51E, "afr"), (0x1D51F, "bfr"), (0x1D520, "cfr"), (0x1D521, "dfr"), (0x1D522, "efr"),
   (0x1D523, "ffr"), (0x1D524, "gfr"), (0x1D525, "hfr"), (0x1D526, "ifr"), (0x1D527, "jfr"),
   (0x1D528, "kfr"), (0x1D529, "lfr"), (0x1D52A, "mfr"), (0x1D52B, "nfr"), (0x1D52C, "ofr"),
   (0x1D52D, "pfr"), (0x1D52E, "qfr"), (0x1D52F, "rfr"), (0x1D530, "sfr"), (0x1D531, "tfr"),
   (0x1D532, "ufr"), (0x1D533, "vfr"), (0x1D534, "wfr"), (0x1D535, "xfr"), (0x1D536, "yfr"),
   (0x1D537, "zfr"), (0x1D538, "Aopf"), (0x1D539, "Bopf"), (0x1D53B, "Dopf"), (0x1D53C, "Eopf"),
   (0x1D53D, "Fopf"), (0x1D53E, "Gopf"), (0x1D540, "Iopf"), (0x1D541, "Jopf"), (0x1D542, "Kopf"),
   (0x1D543, "Lopf"), (0x1D544, "Mopf"), (0x1D546, "Oopf"), (0x1D54A, "Sopf"), (0x1D54B, "Topf"),
   (0x1D54C, "Uopf"), (0x1D54D, "Vopf"), (0x1D54E, "Wopf"), (0x1D54F, "Xopf"), (0x1D550, "Yopf"),
   (0x1D552, "aopf"), (0x1D553, "bopf"), (0x1D554, "copf"), (0x1D555, "dopf"), (0x1D556, "eopf"),
   (0x1D557, "fopf"), (0x1D558, "gopf"), (0x1D559, "hopf"), (0x1D55A, "iopf"), (0x1D55B, "jopf"),
   (0x1D55C, "kopf"), (0x1D55D, "lopf"), (0x1D55E, "mopf"), (0x1D55F, "nopf"), (0x1D560, "oopf"),
   (0x1D561, "popf"), (0x1D562, "qopf"), (0x1D563, "ropf"), (0x1D564, "sopf"), (0x1D565, "topf"),
   (0x1D566, "uopf"), (0x1D567, "vopf"), (0x1D568, "wopf"), (0x1D569, "xopf"),
   (0x1D56A, "yopf"), (0x1D56B, "zopf")]

/-- The names of characters with a combining one behind them, and of the
letters f and j together. -/
def namedPairs : List (Nat × Nat × String) :=
  [(0x3C, 0x20D2, "nvlt"), (0x3D, 0x20E5, "bne"), (0x3E, 0x20D2, "nvgt"), (0x66, 0x6A, "fjlig"),
   (0x205F, 0x200A, "ThickSpace"), (0x219D, 0x338, "nrarrw"), (0x2202, 0x338, "npart"),
   (0x2220, 0x20D2, "nang"), (0x2229, 0xFE00, "caps"), (0x222A, 0xFE00, "cups"),
   (0x223C, 0x20D2, "nvsim"), (0x223D, 0x331, "race"), (0x223E, 0x333, "acE"),
   (0x2242, 0x338, "NotEqualTilde nesim"), (0x224B, 0x338, "napid"), (0x224D, 0x20D2, "nvap"),
   (0x224E, 0x338, "NotHumpDownHump nbump"), (0x224F, 0x338, "NotHumpEqual nbumpe"),
   (0x2250, 0x338, "nedot"), (0x2261, 0x20E5, "bnequiv"),
   (0x2264, 0x20D2, "nvle"), (0x2265, 0x20D2, "nvge"), (0x2266, 0x338, "nlE nleqq"),
   (0x2267, 0x338, "NotGreaterFullEqual ngE ngeqq"), (0x2268, 0xFE00, "lvertneqq lvnE"),
   (0x2269, 0xFE00, "gvertneqq gvnE"), (0x226A, 0x338, "NotLessLess nLtv"), (0x226A, 0x20D2, "nLt"),
   (0x226B, 0x338, "NotGreaterGreater nGtv"), (0x226B, 0x20D2, "nGt"),
   (0x227F, 0x338, "NotSucceedsTilde"), (0x2282, 0x20D2, "NotSubset nsubset vnsub"),
   (0x2283, 0x20D2, "NotSuperset nsupset vnsup"),
   (0x228A, 0xFE00, "varsubsetneq vsubne"), (0x228B, 0xFE00, "varsupsetneq vsupne"),
   (0x228F, 0x338, "NotSquareSubset"), (0x2290, 0x338, "NotSquareSuperset"),
   (0x2293, 0xFE00, "sqcaps"), (0x2294, 0xFE00, "sqcups"), (0x22B4, 0x20D2, "nvltrie"),
   (0x22B5, 0x20D2, "nvrtrie"), (0x22D8, 0x338, "nLl"), (0x22D9, 0x338, "nGg"),
   (0x22DA, 0xFE00, "lesg"), (0x22DB, 0xFE00, "gesl"),
   (0x22F5, 0x338, "notindot"), (0x22F9, 0x338, "notinE"), (0x2933, 0x338, "nrarrc"),
   (0x29CF, 0x338, "NotLeftTriangleBar"), (0x29D0, 0x338, "NotRightTriangleBar"),
   (0x2A6D, 0x338, "ncongdot"), (0x2A70, 0x338, "napE"),
   (0x2A7D, 0x338, "NotLessSlantEqual nleqslant nles"),
   (0x2A7E, 0x338, "NotGreaterSlantEqual ngeqslant nges"), (0x2AA1, 0x338, "NotNestedLessLess"),
   (0x2AA2, 0x338, "NotNestedGreaterGreater"), (0x2AAC, 0xFE00, "smtes"), (0x2AAD, 0xFE00, "lates"),
   (0x2AAF, 0x338, "NotPrecedesEqual npre npreceq"),
   (0x2AB0, 0x338, "NotSucceedsEqual nsce nsucceq"),
   (0x2AC5, 0x338, "nsubE nsubseteqq"), (0x2AC6, 0x338, "nsupE nsupseteqq"),
   (0x2ACB, 0xFE00, "varsubsetneqq vsubnE"), (0x2ACC, 0xFE00, "varsupsetneqq vsupnE"),
   (0x2AFD, 0x20E5, "nparsl")]

/-- The names that need no semicolon. -/
def openNames : List String :=
  ["AElig AMP Aacute Acirc Agrave Aring Atilde Auml COPY Ccedil ETH Eacute",
   "Ecirc Egrave Euml GT Iacute Icirc Igrave Iuml LT Ntilde Oacute Ocirc",
   "Ograve Oslash Otilde Ouml QUOT REG THORN Uacute Ucirc Ugrave Uuml Yacute",
   "aacute acirc acute aelig agrave amp aring atilde auml brvbar ccedil cedil",
   "cent copy curren deg divide eacute ecirc egrave eth euml frac12 frac14",
   "frac34 gt iacute icirc iexcl igrave iquest iuml laquo lt macr micro",
   "middot nbsp not ntilde oacute ocirc ograve ordf ordm oslash otilde ouml",
   "para plusmn pound quot raquo reg sect shy sup1 sup2 sup3 szlig",
   "thorn times uacute ucirc ugrave uml uuml yacute yen yuml"]

/-- The names that stand together in an entry of a table. -/
def entryNames (names : String) : List Text :=
  Text.splitOn ' ' names.toList

def namedTexts : List (Text × Text) :=
  let one (entry : Nat × String) := (entryNames entry.2).map (·, [Char.ofNat entry.1])
  let two (entry : Nat × Nat × String) :=
    (entryNames entry.2.2).map (·, [Char.ofNat entry.1, Char.ofNat entry.2.1])
  (namedLetters ++ namedOperators ++ namedShapes).flatMap one ++ namedPairs.flatMap two

def openNameList : List Text :=
  openNames.flatMap entryNames

def named? (name : Text) : Option Text :=
  namedTexts.lookup name

end Html
end Minify
end SiteOptimizer
