/-!
# Media types

The type of the data in a file, by the ending of its name.  Endings are compared without regard to
case, also where a character outside the Latin letters of ASCII stands for some of them.

The endings are listed by the type that they stand for, family by family (`families`).  A file whose
ending is not among them is served as bytes (`bytes`), and a name that begins with its only dot has
no ending.
-/

namespace Rearrangement.MediaType.Endings

/-! ## Endings of file names

What kind of data a file holds is told by the ending of its name.  Kinds are media types: a family
and, within it, a subtype. -/

/-- Data of applications. -/
def application : List (String × List String) :=
  [("PowerShell", ["psc1"]), ("acad", ["dwg"]), ("andrew-inset", ["ez"]), ("annodex", ["anx"]),
   ("applixware", ["aw"]), ("atom+xml", ["atom"]), ("atomcat+xml", ["atomcat"]),
   ("atomsvc+xml", ["atomsvc"]), ("bdoc", ["bdoc"]), ("ccxml+xml", ["ccxml"]),
   ("cdmi-capability", ["cdmia"]), ("cdmi-container", ["cdmic"]), ("cdmi-domain", ["cdmid"]),
   ("cdmi-object", ["cdmio"]), ("cdmi-queue", ["cdmiq"]), ("cu-seeme", ["cu"]),
   ("dash+xml", ["mpd"]), ("davmount+xml", ["davmount"]), ("directx", ["x"]),
   ("docbook+xml", ["dbk"]), ("dssc+der", ["dssc"]), ("dssc+xml", ["xdssc"]),
   ("ecmascript", ["ecma", "es"]), ("emma+xml", ["emma"]), ("envoy", ["evy"]),
   ("epub+zip", ["epub"]), ("etl", ["etl"]), ("exi", ["exi"]), ("font-tdpfr", ["pfr"]),
   ("font-woff", ["woff"]), ("fractals", ["fif"]), ("fsharp-script", ["fsscript", "fsx"]),
   ("futuresplash", ["spl"]), ("geo+json", ["geojson"]), ("gml+xml", ["gml"]),
   ("gpx+xml", ["gpx"]), ("gxf", ["gxf"]), ("gzip", ["gz"]), ("hjson", ["hjson"]),
   ("hta", ["hta"]), ("hyperstudio", ["stk"]), ("inkml+xml", ["ink", "inkml"]),
   ("internet-property-stream", ["acx"]), ("ipfix", ["ipfix"]),
   ("java-archive", ["ear", "jar", "war"]), ("java-serialized-object", ["ser"]),
   ("json", ["json"]), ("json5", ["json5"]), ("jsonml+json", ["jsonml"]), ("ld+json", ["jsonld"]),
   ("liquidmotion", ["jck", "jcz"]), ("lost+xml", ["lostxml"]), ("mac-binhex40", ["hqx"]),
   ("mac-compactpro", ["cpt"]), ("mads+xml", ["mads"]), ("manifest+json", ["webmanifest"]),
   ("marc", ["mrc"]), ("marcxml+xml", ["mrcx"]), ("mathematica", ["ma", "mb", "nb"]),
   ("mathml+xml", ["mathml"]), ("mbox", ["mbox"]), ("mediaservercontrol+xml", ["mscml"]),
   ("metalink+xml", ["metalink"]), ("metalink4+xml", ["meta4"]), ("mets+xml", ["mets"]),
   ("mods+xml", ["mods"]), ("mp21", ["m21", "mp21"]), ("mp4", ["mp4s"]), ("mpeg", ["amc"]),
   ("ms-vsi", ["vsi"]), ("msaccess", ["accdb", "accde", "accdt", "ade", "adp", "mda", "mde"]),
   ("msaccess.addin", ["accda"]), ("msaccess.cab", ["accdc"]), ("msaccess.ftemplate", ["accft"]),
   ("msaccess.runtime", ["accdr"]), ("msaccess.webapplication", ["accdw"]),
   ("msword", ["doc", "dot", "wbk", "wiz"]), ("mxf", ["mxf"]), ("n-quads", ["nq"]),
   ("n-triples", ["nt"]), ("oda", ["oda"]), ("oebps-package+xml", ["opf"]), ("ogg", ["ogx"]),
   ("olescript", ["axs"]), ("omdoc+xml", ["omdoc"]),
   ("onenote", ["one", "onea", "onepkg", "onetmp", "onetoc", "onetoc2"]),
   ("opensearchdescription+xml", ["osdx"]), ("oxps", ["oxps"]), ("patch-ops-error+xml", ["xer"]),
   ("pdf", ["pdf"]), ("pgp-encrypted", ["pgp"]), ("pgp-signature", ["asc", "sig"]),
   ("pics-rules", ["prf"]), ("pkcs10", ["p10"]), ("pkcs7-mime", ["p7c", "p7m"]),
   ("pkcs7-signature", ["p7s"]), ("pkcs8", ["p8"]), ("pkix-attr-cert", ["ac"]),
   ("pkix-crl", ["crl"]), ("pkix-pkipath", ["pkipath"]), ("pkixcmp", ["pki"]),
   ("postscript", ["ai", "eps", "ps"]), ("prs.cww", ["cww"]), ("pskc+xml", ["pskcxml"]),
   ("raml+yaml", ["raml"]), ("rat-file", ["rat"]), ("rdf+xml", ["rdf"]), ("reginfo+xml", ["rif"]),
   ("relax-ng-compact-syntax", ["rnc"]), ("resource-lists+xml", ["rl"]),
   ("resource-lists-diff+xml", ["rld"]), ("rpki-ghostbusters", ["gbr"]),
   ("rpki-manifest", ["mft"]), ("rpki-roa", ["roa"]), ("rsd+xml", ["rsd"]), ("rss+xml", ["rss"]),
   ("rtf", ["rtf"]), ("sbml+xml", ["sbml"]), ("scvp-cv-request", ["scq"]),
   ("scvp-cv-response", ["scs"]), ("scvp-vp-request", ["spq"]), ("scvp-vp-response", ["spp"]),
   ("sdp", ["sdp"]), ("set-payment-initiation", ["setpay"]),
   ("set-registration-initiation", ["setreg"]), ("shf+xml", ["shf"]), ("smil+xml", ["smil"]),
   ("sparql-query", ["rq"]), ("sparql-results+xml", ["srx"]), ("srgs", ["gram"]),
   ("srgs+xml", ["grxml"]), ("sru+xml", ["sru"]), ("ssdl+xml", ["ssdl"]), ("ssml+xml", ["ssml"]),
   ("step", ["step", "stp"]), ("streamingmedia", ["ssm"]), ("tei+xml", ["tei", "teicorpus"]),
   ("thraud+xml", ["tfi"]), ("timestamped-data", ["tsd"]), ("trig", ["trig"]),
   ("vnd.3gpp.pic-bw-large", ["plb"]), ("vnd.3gpp.pic-bw-small", ["psb"]),
   ("vnd.3gpp.pic-bw-var", ["pvb"]), ("vnd.3gpp2.tcap", ["tcap"]),
   ("vnd.3m.post-it-notes", ["pwn"]), ("vnd.accpac.simply.aso", ["aso"]),
   ("vnd.accpac.simply.imp", ["imp"]), ("vnd.acucobol", ["acu"]),
   ("vnd.acucorp", ["acutc", "atc"]), ("vnd.adobe.air-application-installer-package+zip", ["air"]),
   ("vnd.adobe.formscentral.fcdt", ["fcdt"]), ("vnd.adobe.fxp", ["fxp", "fxpl"]),
   ("vnd.adobe.xdp+xml", ["xdp"]), ("vnd.adobe.xfdf", ["xfdf"]), ("vnd.ahead.space", ["ahead"]),
   ("vnd.airzip.filesecure.azf", ["azf"]), ("vnd.airzip.filesecure.azs", ["azs"]),
   ("vnd.amazon.ebook", ["azw"]), ("vnd.americandynamics.acc", ["acc"]),
   ("vnd.amiga.ami", ["ami"]), ("vnd.android.package-archive", ["apk"]),
   ("vnd.anser-web-certificate-issue-initiation", ["cii"]),
   ("vnd.anser-web-funds-transfer-initiation", ["fti"]), ("vnd.antix.game-component", ["atx"]),
   ("vnd.apache.parquet", ["parquet"]), ("vnd.apple.installer+xml", ["mpkg"]),
   ("vnd.apple.pkpass", ["pkpass"]), ("vnd.aristanetworks.swi", ["swi"]),
   ("vnd.astraea-software.iota", ["iota"]), ("vnd.audiograph", ["aep"]),
   ("vnd.blueice.multipass", ["mpm"]), ("vnd.bmi", ["bmi"]), ("vnd.businessobjects", ["rep"]),
   ("vnd.chemdraw+xml", ["cdxml"]), ("vnd.chipnuts.karaoke-mmd", ["mmd"]),
   ("vnd.cinderella", ["cdy"]), ("vnd.claymore", ["cla"]), ("vnd.cloanto.rp9", ["rp9"]),
   ("vnd.clonk.c4group", ["c4d", "c4f", "c4g", "c4p", "c4u"]),
   ("vnd.cluetrust.cartomobile-config", ["c11amc"]),
   ("vnd.cluetrust.cartomobile-config-pkg", ["c11amz"]), ("vnd.commonspace", ["csp"]),
   ("vnd.contact.cmsg", ["cdbcmsg"]), ("vnd.cosmocaller", ["cmc"]),
   ("vnd.crick.clicker", ["clkx"]), ("vnd.crick.clicker.keyboard", ["clkk"]),
   ("vnd.crick.clicker.palette", ["clkp"]), ("vnd.crick.clicker.template", ["clkt"]),
   ("vnd.crick.clicker.wordbank", ["clkw"]), ("vnd.criticaltools.wbs+xml", ["wbs"]),
   ("vnd.cups-ppd", ["ppd"]), ("vnd.curl.car", ["car"]), ("vnd.curl.pcurl", ["pcurl"]),
   ("vnd.dart", ["dart"]), ("vnd.data-vision.rdz", ["rdz"]),
   ("vnd.dece.data", ["uvd", "uvf", "uvvd", "uvvf"]), ("vnd.dece.ttml+xml", ["uvt", "uvvt"]),
   ("vnd.dece.unspecified", ["uvvx", "uvx"]), ("vnd.dece.zip", ["uvvz", "uvz"]),
   ("vnd.denovo.fcselayout-link", ["fe_launch"]), ("vnd.dna", ["dna"]), ("vnd.dolby.mlp", ["mlp"]),
   ("vnd.dpgraph", ["dpg"]), ("vnd.dreamfactory", ["dfac"]), ("vnd.ds-keypoint", ["kpxx"]),
   ("vnd.dvb.ait", ["ait"]), ("vnd.dynageo", ["geo"]), ("vnd.ecowin.chart", ["mag"]),
   ("vnd.enliven", ["nml"]), ("vnd.epson.esf", ["esf"]), ("vnd.epson.msf", ["msf"]),
   ("vnd.epson.quickanime", ["qam"]), ("vnd.epson.salt", ["slt"]), ("vnd.epson.ssf", ["ssf"]),
   ("vnd.eszigno3+xml", ["es3", "et3"]), ("vnd.ezpix-album", ["ez2"]),
   ("vnd.ezpix-package", ["ez3"]), ("vnd.fdf", ["fdf"]), ("vnd.fdsn.mseed", ["mseed"]),
   ("vnd.fdsn.seed", ["dataless", "seed"]), ("vnd.flographit", ["gph"]),
   ("vnd.fluxtime.clip", ["ftc"]), ("vnd.framemaker", ["book", "fm", "frame", "maker"]),
   ("vnd.frogans.fnc", ["fnc"]), ("vnd.frogans.ltf", ["ltf"]), ("vnd.fsc.weblaunch", ["fsc"]),
   ("vnd.fujitsu.oasys", ["oas"]), ("vnd.fujitsu.oasys2", ["oa2"]),
   ("vnd.fujitsu.oasys3", ["oa3"]), ("vnd.fujitsu.oasysgp", ["fg5"]),
   ("vnd.fujitsu.oasysprs", ["bh2"]), ("vnd.fujixerox.ddd", ["ddd"]),
   ("vnd.fujixerox.docuworks", ["xdw"]), ("vnd.fujixerox.docuworks.binder", ["xbd"]),
   ("vnd.fuzzysheet", ["fzs"]), ("vnd.genomatix.tuxedo", ["txd"]), ("vnd.geogebra.file", ["ggb"]),
   ("vnd.geogebra.tool", ["ggt"]), ("vnd.geometry-explorer", ["gex", "gre"]),
   ("vnd.geonext", ["gxt"]), ("vnd.geoplan", ["g2w"]), ("vnd.geospace", ["g3w"]),
   ("vnd.gmx", ["gmx"]), ("vnd.google-apps.document", ["gdoc"]),
   ("vnd.google-apps.presentation", ["gslides"]), ("vnd.google-apps.spreadsheet", ["gsheet"]),
   ("vnd.google-earth.kml+xml", ["kml"]), ("vnd.google-earth.kmz", ["kmz"]),
   ("vnd.grafeq", ["gqf", "gqs"]), ("vnd.groove-account", ["gac"]), ("vnd.groove-help", ["ghf"]),
   ("vnd.groove-identity-message", ["gim"]), ("vnd.groove-injector", ["grv"]),
   ("vnd.groove-tool-message", ["gtm"]), ("vnd.groove-tool-template", ["tpl"]),
   ("vnd.groove-vcard", ["vcg"]), ("vnd.hal+xml", ["hal"]),
   ("vnd.handheld-entertainment+xml", ["zmm"]), ("vnd.hbci", ["hbci"]),
   ("vnd.hhe.lesson-player", ["les"]), ("vnd.hp-hpgl", ["hpgl"]), ("vnd.hp-hpid", ["hpid"]),
   ("vnd.hp-hps", ["hps"]), ("vnd.hp-jlyt", ["jlt"]), ("vnd.hp-pcl", ["pcl"]),
   ("vnd.hp-pclxl", ["pclxl"]), ("vnd.hydrostatix.sof-data", ["sfd-hdstx"]),
   ("vnd.ibm.minipay", ["mpy"]), ("vnd.ibm.modcap", ["afp", "list3820", "listafp"]),
   ("vnd.ibm.rights-management", ["irm"]), ("vnd.ibm.secure-container", ["sc"]),
   ("vnd.iccprofile", ["icc", "icm"]), ("vnd.igloader", ["igl"]), ("vnd.immervision-ivp", ["ivp"]),
   ("vnd.immervision-ivu", ["ivu"]), ("vnd.insors.igm", ["igm"]),
   ("vnd.intercon.formnet", ["xpw", "xpx"]), ("vnd.intergeo", ["i2g"]), ("vnd.intu.qbo", ["qbo"]),
   ("vnd.intu.qfx", ["qfx"]), ("vnd.ipunplugged.rcprofile", ["rcprofile"]),
   ("vnd.irepository.package+xml", ["irp"]), ("vnd.is-xpr", ["xpr"]), ("vnd.isac.fcs", ["fcs"]),
   ("vnd.jam", ["jam"]), ("vnd.jcp.javame.midlet-rms", ["rms"]), ("vnd.jisp", ["jisp"]),
   ("vnd.joost.joda-archive", ["joda"]), ("vnd.kahootz", ["ktr", "ktz"]),
   ("vnd.kde.karbon", ["karbon"]), ("vnd.kde.kchart", ["chrt"]), ("vnd.kde.kformula", ["kfo"]),
   ("vnd.kde.kivio", ["flw"]), ("vnd.kde.kontour", ["kon"]),
   ("vnd.kde.kpresenter", ["kpr", "kpt"]), ("vnd.kde.kspread", ["ksp"]),
   ("vnd.kde.kword", ["kwd", "kwt"]), ("vnd.kenameaapp", ["htke"]), ("vnd.kidspiration", ["kia"]),
   ("vnd.kinar", ["kne", "knp"]), ("vnd.koan", ["skd", "skm", "skt"]),
   ("vnd.kodak-descriptor", ["sse"]), ("vnd.las.las+xml", ["lasxml"]),
   ("vnd.llamagraphics.life-balance.desktop", ["lbd"]),
   ("vnd.llamagraphics.life-balance.exchange+xml", ["lbe"]), ("vnd.lotus-1-2-3", ["123"]),
   ("vnd.lotus-approach", ["apr"]), ("vnd.lotus-freelance", ["pre"]), ("vnd.lotus-notes", ["nsf"]),
   ("vnd.lotus-organizer", ["org"]), ("vnd.lotus-screencam", ["scm"]),
   ("vnd.lotus-wordpro", ["lwp"]), ("vnd.macports.portpkg", ["portpkg"]), ("vnd.mcd", ["mcd"]),
   ("vnd.medcalcdata", ["mc1"]), ("vnd.mediastation.cdkey", ["cdkey"]), ("vnd.mfer", ["mwf"]),
   ("vnd.mfmp", ["mfm"]), ("vnd.micrografx.flo", ["flo"]), ("vnd.micrografx.igx", ["igx"]),
   ("vnd.mif", ["mif"]), ("vnd.mobius.daf", ["daf"]), ("vnd.mobius.dis", ["dis"]),
   ("vnd.mobius.mbk", ["mbk"]), ("vnd.mobius.mqy", ["mqy"]), ("vnd.mobius.msl", ["msl"]),
   ("vnd.mobius.plc", ["plc"]), ("vnd.mobius.txf", ["txf"]), ("vnd.mophun.application", ["mpn"]),
   ("vnd.mophun.certificate", ["mpc"]), ("vnd.mozilla.xul+xml", ["xul"]),
   ("vnd.ms-artgalry", ["cil"]),
   ("vnd.ms-excel", ["slk", "xla", "xlc", "xld", "xlk", "xll", "xlm", "xls", "xlt", "xlw"]),
   ("vnd.ms-excel.addin.macroEnabled.12", ["xlam"]),
   ("vnd.ms-excel.sheet.binary.macroEnabled.12", ["xlsb"]),
   ("vnd.ms-excel.sheet.macroEnabled.12", ["xlsm"]),
   ("vnd.ms-excel.template.macroEnabled.12", ["xltm"]), ("vnd.ms-fontobject", ["eot"]),
   ("vnd.ms-ims", ["ims"]), ("vnd.ms-lrm", ["lrm"]), ("vnd.ms-mediapackage", ["mpf"]),
   ("vnd.ms-office.calx", ["calx"]), ("vnd.ms-officetheme", ["thmx"]),
   ("vnd.ms-outlook", ["msg", "pst"]), ("vnd.ms-pki.certstore", ["sst"]),
   ("vnd.ms-pki.pko", ["pko"]), ("vnd.ms-pki.seccat", ["cat"]), ("vnd.ms-pki.stl", ["stl"]),
   ("vnd.ms-powerpoint", ["pot", "ppa", "pps", "ppt", "pwz"]),
   ("vnd.ms-powerpoint.addin.macroEnabled.12", ["ppam"]),
   ("vnd.ms-powerpoint.presentation.macroEnabled.12", ["pptm"]),
   ("vnd.ms-powerpoint.slide.macroEnabled.12", ["sldm"]),
   ("vnd.ms-powerpoint.slideshow.macroEnabled.12", ["ppsm"]),
   ("vnd.ms-powerpoint.template.macroEnabled.12", ["potm"]), ("vnd.ms-project", ["mpp", "mpt"]),
   ("vnd.ms-visio.viewer", ["vdx"]), ("vnd.ms-word.document.macroEnabled.12", ["docm"]),
   ("vnd.ms-word.template.macroEnabled.12", ["dotm"]),
   ("vnd.ms-works", ["wcm", "wdb", "wks", "wps"]), ("vnd.ms-wpl", ["wpl"]),
   ("vnd.ms-xpsdocument", ["xps"]), ("vnd.mseq", ["mseq"]), ("vnd.musician", ["mus"]),
   ("vnd.muvee.style", ["msty"]), ("vnd.mynfc", ["taglet"]), ("vnd.neurolanguage.nlu", ["nlu"]),
   ("vnd.nitf", ["nitf", "ntf"]), ("vnd.noblenet-directory", ["nnd"]),
   ("vnd.noblenet-sealer", ["nns"]), ("vnd.noblenet-web", ["nnw"]),
   ("vnd.nokia.n-gage.data", ["ngdat"]), ("vnd.nokia.n-gage.symbian.install", ["n-gage"]),
   ("vnd.nokia.radio-preset", ["rpst"]), ("vnd.nokia.radio-presets", ["rpss"]),
   ("vnd.novadigm.edm", ["edm"]), ("vnd.novadigm.edx", ["edx"]), ("vnd.novadigm.ext", ["ext"]),
   ("vnd.oasis.opendocument.chart", ["odc"]), ("vnd.oasis.opendocument.chart-template", ["otc"]),
   ("vnd.oasis.opendocument.database", ["odb"]), ("vnd.oasis.opendocument.formula", ["odf"]),
   ("vnd.oasis.opendocument.formula-template", ["odft"]),
   ("vnd.oasis.opendocument.graphics", ["odg"]),
   ("vnd.oasis.opendocument.graphics-template", ["otg"]),
   ("vnd.oasis.opendocument.image", ["odi"]), ("vnd.oasis.opendocument.image-template", ["oti"]),
   ("vnd.oasis.opendocument.presentation", ["odp"]),
   ("vnd.oasis.opendocument.presentation-template", ["otp"]),
   ("vnd.oasis.opendocument.spreadsheet", ["ods"]),
   ("vnd.oasis.opendocument.spreadsheet-template", ["ots"]),
   ("vnd.oasis.opendocument.text", ["odt"]), ("vnd.oasis.opendocument.text-master", ["odm"]),
   ("vnd.oasis.opendocument.text-template", ["ott"]), ("vnd.oasis.opendocument.text-web", ["oth"]),
   ("vnd.olpc-sugar", ["xo"]), ("vnd.oma.dd2+xml", ["dd2"]),
   ("vnd.openofficeorg.extension", ["oxt"]),
   ("vnd.openxmlformats-officedocument.presentationml.presentation", ["pptx"]),
   ("vnd.openxmlformats-officedocument.presentationml.slide", ["sldx"]),
   ("vnd.openxmlformats-officedocument.presentationml.slideshow", ["ppsx"]),
   ("vnd.openxmlformats-officedocument.presentationml.template", ["potx"]),
   ("vnd.openxmlformats-officedocument.spreadsheetml.sheet", ["xlsx"]),
   ("vnd.openxmlformats-officedocument.spreadsheetml.template", ["xltx"]),
   ("vnd.openxmlformats-officedocument.wordprocessingml.document", ["docx"]),
   ("vnd.openxmlformats-officedocument.wordprocessingml.template", ["dotx"]),
   ("vnd.osgeo.mapguide.package", ["mgp"]), ("vnd.osgi.dp", ["dp"]),
   ("vnd.osgi.subsystem", ["esa"]), ("vnd.palm", ["oprc", "pdb", "pqa"]),
   ("vnd.pawaafile", ["paw"]), ("vnd.pg.format", ["str"]), ("vnd.pg.osasli", ["ei6"]),
   ("vnd.picsel", ["efif"]), ("vnd.pmi.widget", ["wg"]), ("vnd.pocketlearn", ["plf"]),
   ("vnd.powerbuilder6", ["pbd"]), ("vnd.previewsystems.box", ["box"]),
   ("vnd.proteus.magazine", ["mgz"]), ("vnd.publishare-delta-tree", ["qps"]),
   ("vnd.pvi.ptid1", ["ptid"]), ("vnd.quark.quarkxpress", ["qwd", "qwt", "qxb", "qxl", "qxt"]),
   ("vnd.realvnc.bed", ["bed"]), ("vnd.recordare.musicxml", ["mxl"]),
   ("vnd.recordare.musicxml+xml", ["musicxml"]), ("vnd.rig.cryptonote", ["cryptonote"]),
   ("vnd.rn-realmedia", ["rm"]), ("vnd.rn-realmedia-vbr", ["rmvb"]),
   ("vnd.rn-rn_music_package", ["rmp"]), ("vnd.route66.link66+xml", ["link66"]),
   ("vnd.sailingtracker.track", ["st"]), ("vnd.seemail", ["see"]), ("vnd.sema", ["sema"]),
   ("vnd.semd", ["semd"]), ("vnd.semf", ["semf"]), ("vnd.shana.informed.formdata", ["ifm"]),
   ("vnd.shana.informed.formtemplate", ["itp"]), ("vnd.shana.informed.interchange", ["iif"]),
   ("vnd.shana.informed.package", ["ipk"]), ("vnd.simtech-mindmapper", ["twd", "twds"]),
   ("vnd.smart.teacher", ["teacher"]), ("vnd.solent.sdkm+xml", ["sdkd", "sdkm"]),
   ("vnd.spotfire.dxp", ["dxp"]), ("vnd.spotfire.sfs", ["sfs"]),
   ("vnd.stardivision.calc", ["sdc"]), ("vnd.stardivision.draw", ["sda"]),
   ("vnd.stardivision.impress", ["sdd"]), ("vnd.stardivision.math", ["smf"]),
   ("vnd.stardivision.writer", ["sdw", "vor"]), ("vnd.stardivision.writer-global", ["sgl"]),
   ("vnd.stepmania.package", ["smzip"]), ("vnd.stepmania.stepchart", ["sm"]),
   ("vnd.sun.wadl+xml", ["wadl"]), ("vnd.sun.xml.calc", ["sxc"]),
   ("vnd.sun.xml.calc.template", ["stc"]), ("vnd.sun.xml.draw", ["sxd"]),
   ("vnd.sun.xml.draw.template", ["std"]), ("vnd.sun.xml.impress", ["sxi"]),
   ("vnd.sun.xml.impress.template", ["sti"]), ("vnd.sun.xml.math", ["sxm"]),
   ("vnd.sun.xml.writer", ["sxw"]), ("vnd.sun.xml.writer.global", ["sxg"]),
   ("vnd.sun.xml.writer.template", ["stw"]), ("vnd.sus-calendar", ["sus", "susp"]),
   ("vnd.svd", ["svd"]), ("vnd.symbian.install", ["sis", "sisx"]), ("vnd.syncml+xml", ["xsm"]),
   ("vnd.syncml.dm+wbxml", ["bdm"]), ("vnd.syncml.dm+xml", ["xdm"]),
   ("vnd.tao.intent-module-archive", ["tao"]), ("vnd.tcpdump.pcap", ["cap", "dmp", "pcap"]),
   ("vnd.tmobile-livetv", ["tmo"]), ("vnd.trid.tpt", ["tpt"]), ("vnd.triscape.mxs", ["mxs"]),
   ("vnd.trueapp", ["tra"]), ("vnd.ufdl", ["ufd", "ufdl"]), ("vnd.uiq.theme", ["utz"]),
   ("vnd.umajin", ["umj"]), ("vnd.unity", ["unityweb"]), ("vnd.uoml+xml", ["uoml"]),
   ("vnd.vcx", ["vcx"]), ("vnd.visio", ["vsd", "vss", "vst", "vsw", "vsx", "vtx"]),
   ("vnd.visionary", ["vis"]), ("vnd.vsf", ["vsf"]), ("vnd.wap.wbxml", ["wbxml"]),
   ("vnd.wap.wmlc", ["wmlc"]), ("vnd.wap.wmlscriptc", ["wmlsc"]), ("vnd.webturbo", ["wtb"]),
   ("vnd.wolfram.player", ["nbp"]), ("vnd.wordperfect", ["wpd"]), ("vnd.wqd", ["wqd"]),
   ("vnd.wt.stf", ["stf"]), ("vnd.xara", ["xar"]), ("vnd.xfdl", ["xfdl"]),
   ("vnd.yamaha.hv-dic", ["hvd"]), ("vnd.yamaha.hv-script", ["hvs"]),
   ("vnd.yamaha.hv-voice", ["hvp"]), ("vnd.yamaha.openscoreformat", ["osf"]),
   ("vnd.yamaha.openscoreformat.osfpvg+xml", ["osfpvg"]), ("vnd.yamaha.smaf-audio", ["saf"]),
   ("vnd.yamaha.smaf-phrase", ["spf"]), ("vnd.yellowriver-custom-menu", ["cmp"]),
   ("vnd.zul", ["zir", "zirz"]), ("vnd.zzazz.deck+xml", ["zaz"]), ("voicexml+xml", ["vxml"]),
   ("vsix", ["vsix"]), ("wasm", ["wasm"]), ("widget", ["wgt"]),
   ("windows-library+xml", ["library-ms"]),
   ("windows-search-connector+xml", ["searchconnector-ms"]), ("winhlp", ["hlp"]),
   ("wlmoviemaker", ["wlmp"]), ("wspolicy+xml", ["wspolicy"]), ("x-7z-compressed", ["7z"]),
   ("x-abiword", ["abw"]), ("x-ace-compressed", ["ace"]), ("x-arj", ["arj"]),
   ("x-authorware-bin", ["aab", "vox", "x32"]), ("x-authorware-map", ["aam"]),
   ("x-authorware-seg", ["aas"]), ("x-bcpio", ["bcpio"]), ("x-bittorrent", ["torrent"]),
   ("x-blorb", ["blb", "blorb"]), ("x-bridge-url", ["adobebridge"]), ("x-bzip", ["bz"]),
   ("x-bzip2", ["boz", "bz2"]), ("x-cbr", ["cb7", "cba", "cbr", "cbt", "cbz"]), ("x-cdf", ["cdf"]),
   ("x-cdlink", ["vcd"]), ("x-cfs-compressed", ["cfs"]), ("x-chat", ["chat"]),
   ("x-chess-pgn", ["pgn"]), ("x-chrome-extension", ["crx"]), ("x-cocoa", ["cco"]),
   ("x-compress", ["z"]), ("x-compressed", ["tgz"]), ("x-cpio", ["cpio"]), ("x-csh", ["csh"]),
   ("x-debian-package", ["udeb"]), ("x-dgc-compressed", ["dgc"]),
   ("x-director", ["cct", "cst", "cxt", "dcr", "dir", "dxr", "fgd", "swa", "w3d"]),
   ("x-doom", ["wad"]), ("x-dtbncx+xml", ["ncx"]), ("x-dtbook+xml", ["dtb"]),
   ("x-dtbresource+xml", ["res"]), ("x-dvi", ["dvi"]), ("x-dxf", ["dxf"]), ("x-eva", ["eva"]),
   ("x-font-bdf", ["bdf"]), ("x-font-ghostscript", ["gsf"]), ("x-font-linux-psf", ["psf"]),
   ("x-font-pcf", ["pcf"]), ("x-font-snf", ["snf"]), ("x-font-type1", ["pfa"]),
   ("x-freearc", ["arc"]), ("x-gca-compressed", ["gca"]), ("x-glulx", ["ulx"]),
   ("x-gnumeric", ["gnumeric"]), ("x-gramps-xml", ["gramps"]), ("x-gtar", ["gtar"]),
   ("x-hdf", ["hdf"]), ("x-install-instructions", ["install"]),
   ("x-internet-signup", ["ins", "isp"]), ("x-iphone", ["iii"]), ("x-itunes-ipa", ["ipa"]),
   ("x-itunes-ipg", ["ipg"]), ("x-itunes-ipsw", ["ipsw"]), ("x-itunes-ite", ["ite"]),
   ("x-itunes-itlp", ["itlp"]), ("x-itunes-itms", ["itms"]), ("x-itunes-itpc", ["itpc"]),
   ("x-java-applet", ["class"]), ("x-java-archive-diff", ["jardiff"]),
   ("x-java-jnlp-file", ["jnlp"]), ("x-koan", ["skp"]), ("x-latex", ["latex"]),
   ("x-lua-bytecode", ["luac"]), ("x-lzh-compressed", ["lha"]), ("x-makeself", ["run"]),
   ("x-mie", ["mie"]), ("x-miva-compiled", ["mvc"]), ("x-mmxp", ["mxp"]),
   ("x-mobipocket-ebook", ["mobi", "prc"]), ("x-ms-application", ["application"]),
   ("x-ms-license", ["slupkg-ms"]), ("x-ms-manifest", ["manifest"]), ("x-ms-reader", ["lit"]),
   ("x-ms-shortcut", ["lnk"]), ("x-ms-vsto", ["vsto"]), ("x-ms-wmd", ["wmd"]),
   ("x-ms-wmz", ["wmz"]), ("x-ms-xbap", ["xbap"]), ("x-msaccess", ["mdb"]),
   ("x-msbinder", ["obd"]), ("x-mscardfile", ["crd"]), ("x-msclip", ["clp"]),
   ("x-msdownload", ["bat", "com", "dll"]), ("x-msmediaview", ["m13", "m14", "mvb"]),
   ("x-msmetafile", ["wmf"]), ("x-msmoney", ["mny"]), ("x-mspublisher", ["pub"]),
   ("x-msschedule", ["scd"]), ("x-msterminal", ["trm"]), ("x-mswrite", ["wri"]),
   ("x-netcdf", ["nc"]), ("x-ns-proxy-autoconfig", ["pac"]), ("x-nzb", ["nzb"]),
   ("x-oleobject", ["hhc"]), ("x-perfmon", ["pma", "pmc", "pml", "pmr", "pmw"]),
   ("x-perl", ["pl", "pm"]), ("x-pkcs12", ["p12", "pfx"]),
   ("x-pkcs7-certificates", ["p7b", "spc"]), ("x-pkcs7-certreqresp", ["p7r"]),
   ("x-podcast", ["pcast"]), ("x-quicktimeplayer", ["qtl"]), ("x-rar-compressed", ["rar"]),
   ("x-research-info-systems", ["ris"]), ("x-safari-safariextz", ["safariextz"]),
   ("x-safari-webarchive", ["webarchive"]), ("x-sgimb", ["sgimb"]), ("x-sh", ["sh"]),
   ("x-shar", ["shar"]), ("x-shockwave-flash", ["mfp", "swf"]), ("x-silverlight-app", ["xap"]),
   ("x-smaf", ["mmf"]), ("x-sql", ["sql"]), ("x-stuffit", ["sit"]), ("x-stuffitx", ["sitx"]),
   ("x-subrip", ["srt"]), ("x-sv4cpio", ["sv4cpio"]), ("x-sv4crc", ["sv4crc"]),
   ("x-t3vm-image", ["t3"]), ("x-tads", ["gam"]), ("x-tar", ["tar"]), ("x-tcl", ["tcl", "tk"]),
   ("x-tex", ["tex"]), ("x-tex-tfm", ["tfm"]), ("x-texinfo", ["texi", "texinfo"]),
   ("x-tgif", ["obj"]), ("x-troff", ["roff", "t", "tr"]), ("x-troff-man", ["man"]),
   ("x-troff-me", ["me"]), ("x-troff-ms", ["ms"]), ("x-ustar", ["ustar"]),
   ("x-virtualbox-hdd", ["hdd"]), ("x-virtualbox-ova", ["ova"]), ("x-virtualbox-ovf", ["ovf"]),
   ("x-virtualbox-vbox", ["vbox"]), ("x-virtualbox-vbox-extpack", ["vbox-extpack"]),
   ("x-virtualbox-vdi", ["vdi"]), ("x-virtualbox-vhd", ["vhd"]), ("x-virtualbox-vmdk", ["vmdk"]),
   ("x-wais-source", ["src"]), ("x-web-app-manifest+json", ["webapp"]),
   ("x-wlpg-detect", ["wlpginstall"]), ("x-wlpg3-detect", ["wlpginstall3"]),
   ("x-x509-ca-cert", ["cer", "crt", "der", "pem"]), ("x-xfig", ["fig"]), ("x-xliff+xml", ["xlf"]),
   ("x-xpinstall", ["xpi"]), ("x-xz", ["xz"]),
   ("x-zmachine", ["z1", "z2", "z3", "z4", "z5", "z6", "z7", "z8"]), ("xaml+xml", ["xaml"]),
   ("xcap-diff+xml", ["xdf"]), ("xenc+xml", ["xenc"]), ("xhtml+xml", ["xht", "xhtml"]),
   ("xml", ["asa", "asax", "ascx", "ashx", "asmx", "aspx", "config", "coverage", "datasource",
     "dgml", "filters", "generictest", "hxa", "hxc", "hxe", "hxf", "hxk", "hxv", "loadtest",
     "master", "mtx", "orderedtest", "psess", "rdlc", "resx", "rng", "ruleset", "settings",
     "sitemap", "skin", "snippet", "svc", "testrunconfig", "testsettings", "trx", "vcproj",
     "vcxproj", "vscontent", "vsmdi", "webtest", "wiq", "xmta", "xsc", "xss"]),
   ("xop+xml", ["xop"]), ("xproc+xml", ["xpl"]), ("xspf+xml", ["xspf"]),
   ("xv+xml", ["mxml", "xhvml", "xvm", "xvml"]), ("yang", ["yang"]), ("yin+xml", ["yin"]),
   ("zip", ["zip"]), ("zstd", ["zst"])]

/-- Sounds. -/
def audio : List (String × List String) :=
  [("aac", ["aac", "adts"]), ("ac3", ["ac3"]), ("aiff", ["aif", "aifc", "aiff", "cdda"]),
   ("annodex", ["axa"]), ("audible", ["aa"]), ("basic", ["au", "snd"]), ("flac", ["flac"]),
   ("m4a", ["m4a"]), ("m4b", ["m4b"]), ("m4p", ["m4p"]), ("mid", ["mid", "midi", "rmi"]),
   ("midi", ["kar"]), ("mp4", ["mp4a"]), ("mpeg", ["m2a", "m3a", "mp2a", "mp3", "mpga"]),
   ("ogg", ["oga", "ogg", "opus", "spx"]), ("s3m", ["s3m"]), ("scpls", ["pls"]), ("silk", ["sil"]),
   ("vnd.audible.aax", ["aax"]), ("vnd.dece.audio", ["uva", "uvva"]),
   ("vnd.digital-winds", ["eol"]), ("vnd.dlna.adts", ["adt"]), ("vnd.dra", ["dra"]),
   ("vnd.dts", ["dts"]), ("vnd.dts.hd", ["dtshd"]), ("vnd.lucent.voice", ["lvp"]),
   ("vnd.ms-playready.media.pya", ["pya"]), ("vnd.nuera.ecelp4800", ["ecelp4800"]),
   ("vnd.nuera.ecelp7470", ["ecelp7470"]), ("vnd.nuera.ecelp9600", ["ecelp9600"]),
   ("vnd.rip", ["rip"]), ("wav", ["wav", "wave"]), ("webm", ["weba"]), ("x-caf", ["caf"]),
   ("x-gsm", ["gsm"]), ("x-m4r", ["m4r"]), ("x-matroska", ["mka"]), ("x-mpegurl", ["m3u", "m3u8"]),
   ("x-ms-wax", ["wax"]), ("x-ms-wma", ["wma"]), ("x-pn-realaudio", ["ra", "ram"]),
   ("x-pn-realaudio-plugin", ["rpm"]), ("x-sd2", ["sd2"]), ("x-smd", ["smd", "smx", "smz"]),
   ("xm", ["xm"])]

/-- Molecules. -/
def chemical : List (String × List String) :=
  [("x-cdx", ["cdx"]), ("x-cif", ["cif"]), ("x-cmdf", ["cmdf"]), ("x-cml", ["cml"]),
   ("x-csml", ["csml"]), ("x-xyz", ["xyz"])]

/-- Drawings. -/
def drawing : List (String × List String) :=
  [("x-dwf", ["dwf"])]

/-- Fonts. -/
def font : List (String × List String) :=
  [("collection", ["ttc"]), ("otf", ["otf"]), ("ttf", ["ttf"]), ("woff2", ["woff2"])]

/-- Images. -/
def image : List (String × List String) :=
  [("apng", ["apng"]), ("avif", ["avif"]), ("avif-sequence", ["avifs"]), ("bmp", ["bmp", "dib"]),
   ("cgm", ["cgm"]), ("cis-cod", ["cod"]), ("emf", ["emf"]), ("g3fax", ["g3"]), ("gif", ["gif"]),
   ("heic", ["heic"]), ("heic-sequence", ["heics"]), ("heif", ["heif"]),
   ("heif-sequence", ["heifs"]), ("ief", ["ief"]), ("jp2", ["jp2", "jpg2"]),
   ("jpeg", ["jfif", "jpe", "jpeg", "jpg"]), ("jpm", ["jpm"]), ("jpx", ["jpf", "jpx"]),
   ("jxl", ["jxl"]), ("ktx", ["ktx"]), ("pict", ["pct", "pic", "pict"]), ("png", ["png", "pnz"]),
   ("prs.btif", ["btif"]), ("sgi", ["sgi"]), ("svg+xml", ["svg", "svgz"]),
   ("tiff", ["tif", "tiff"]), ("vnd.adobe.photoshop", ["psd"]),
   ("vnd.dece.graphic", ["uvg", "uvi", "uvvg", "uvvi"]), ("vnd.djvu", ["djv", "djvu"]),
   ("vnd.fastbidsheet", ["fbs"]), ("vnd.fpx", ["fpx"]), ("vnd.fst", ["fst"]),
   ("vnd.fujixerox.edmics-mmr", ["mmr"]), ("vnd.fujixerox.edmics-rlc", ["rlc"]),
   ("vnd.ms-modi", ["mdi"]), ("vnd.ms-photo", ["wdp"]), ("vnd.net-fpx", ["npx"]),
   ("vnd.rn-realflash", ["rf"]), ("vnd.wap.wbmp", ["wbmp"]), ("vnd.xiff", ["xif"]),
   ("webp", ["webp"]), ("x-3ds", ["3ds"]), ("x-adobe-dng", ["dng"]), ("x-canon-cr2", ["cr2"]),
   ("x-canon-cr3", ["cr3"]), ("x-canon-crw", ["crw"]), ("x-cmu-raster", ["ras"]),
   ("x-cmx", ["cmx"]), ("x-freehand", ["fh", "fh4", "fh5", "fh7", "fhc"]), ("x-fuji-raf", ["raf"]),
   ("x-icon", ["ico"]), ("x-jg", ["art"]), ("x-jng", ["jng"]), ("x-kodak-k25", ["k25"]),
   ("x-kodak-kdc", ["kdc"]), ("x-macpaint", ["mac", "pnt", "pntg"]), ("x-minolta-mrw", ["mrw"]),
   ("x-mrsid-image", ["sid"]), ("x-nikon-nef", ["nef"]), ("x-nikon-nrw", ["nrw"]),
   ("x-olympus-orf", ["orf"]), ("x-panasonic-rw", ["raw"]), ("x-panasonic-rw2", ["rw2"]),
   ("x-pentax-pef", ["pef"]), ("x-portable-anymap", ["pnm"]), ("x-portable-bitmap", ["pbm"]),
   ("x-portable-graymap", ["pgm"]), ("x-portable-pixmap", ["ppm"]),
   ("x-quicktime", ["qti", "qtif"]), ("x-rgb", ["rgb"]), ("x-sigma-x3f", ["x3f"]),
   ("x-sony-arw", ["arw"]), ("x-sony-sr2", ["sr2"]), ("x-tga", ["tga"]), ("x-xbitmap", ["xbm"]),
   ("x-xpixmap", ["xpm"]), ("x-xwindowdump", ["xwd"])]

/-- Messages. -/
def message : List (String × List String) :=
  [("disposition-notification", ["disposition-notification"]), ("global", ["u8msg"]),
   ("global-delivery-status", ["u8dsn"]), ("global-disposition-notification", ["u8mdn"]),
   ("global-headers", ["u8hdr"]), ("rfc822", ["eml", "mht", "mhtml", "mime", "nws"])]

/-- Models of bodies and scenes. -/
def model : List (String × List String) :=
  [("gltf+json", ["gltf"]), ("gltf-binary", ["glb"]), ("iges", ["iges", "igs"]),
   ("mesh", ["mesh", "msh", "silo"]), ("vnd.collada+xml", ["dae"]), ("vnd.gdl", ["gdl"]),
   ("vnd.gtw", ["gtw"]), ("vnd.vtu", ["vtu"]), ("vrml", ["vrml"]),
   ("x3d+binary", ["x3db", "x3dbz"]), ("x3d+vrml", ["x3dv", "x3dvz"]),
   ("x3d+xml", ["x3d", "x3dz"])]

/-- Texts. -/
def text : List (String × List String) :=
  [("cache-manifest", ["appcache"]), ("calendar", ["ics", "ifb"]),
   ("coffeescript", ["coffee", "litcoffee"]), ("css", ["css"]), ("csv", ["csv"]), ("dlm", ["dlm"]),
   ("h323", ["323"]), ("html", ["htm", "html", "hxt", "shtml"]), ("iuls", ["uls"]),
   ("jade", ["jade"]), ("javascript", ["js", "jsm", "mjs"]), ("jscript", ["jsx"]),
   ("less", ["less"]), ("markdown", ["markdown", "md"]), ("mathml", ["mml"]), ("n3", ["n3"]),
   ("plain", ["asm", "bas", "c", "cc", "cd", "cfg", "cmd", "cnf", "conf", "cpp", "cs", "csdproj",
     "csproj", "cxx", "dbproj", "def", "dsw", "h", "hh", "hpp", "hxx", "i", "idl", "in", "inc",
     "ini", "inl", "ipproj", "jsxbin", "list", "log", "lst", "mak", "map", "mk", "odh", "odl",
     "pkgdef", "pkgundef", "rc", "rc2", "rct", "reg", "rgs", "s", "scr", "sln", "sol", "sor",
     "srf", "text", "tlh", "tli", "txt", "user", "vb", "vbdproj", "vbproj", "vcs", "vddproj",
     "vdp", "vdproj", "vspscc", "vsscc", "vssscc", "xdr", "xoml"]), ("prs.lines.tag", ["dsc"]),
   ("richtext", ["rtx"]), ("scriptlet", ["sct", "wsc"]), ("sgml", ["sgm", "sgml"]),
   ("shex", ["shex"]), ("slim", ["slim", "slm"]), ("stylus", ["styl", "stylus"]),
   ("tab-separated-values", ["tsv"]), ("turtle", ["ttl"]), ("uri-list", ["uri", "uris", "urls"]),
   ("vbscript", ["vbs"]), ("vcard", ["vcard"]), ("vnd.curl", ["curl"]),
   ("vnd.curl.dcurl", ["dcurl"]), ("vnd.curl.mcurl", ["mcurl"]), ("vnd.curl.scurl", ["scurl"]),
   ("vnd.dvb.subtitle", ["sub"]), ("vnd.fly", ["fly"]), ("vnd.fmi.flexstor", ["flx"]),
   ("vnd.graphviz", ["gv"]), ("vnd.in3d.3dml", ["3dml"]), ("vnd.in3d.spot", ["spot"]),
   ("vnd.sun.j2me.app-descriptor", ["jad"]), ("vnd.wap.wml", ["wml"]),
   ("vnd.wap.wmlscript", ["wmls"]), ("vtt", ["vtt"]), ("webviewhtml", ["htt"]), ("x-c", ["dic"]),
   ("x-component", ["htc"]), ("x-fortran", ["f", "f77", "f90", "for"]),
   ("x-handlebars-template", ["hbs"]), ("x-hdml", ["hdml"]), ("x-html-insertion", ["qht", "qhtm"]),
   ("x-lua", ["lua"]), ("x-markdown", ["mkd"]), ("x-ms-contact", ["contact"]),
   ("x-ms-group", ["group"]), ("x-ms-iqy", ["iqy"]), ("x-ms-rqy", ["rqy"]), ("x-nfo", ["nfo"]),
   ("x-opml", ["opml"]), ("x-pascal", ["p", "pas"]), ("x-processing", ["pde"]), ("x-rust", ["rs"]),
   ("x-sass", ["sass"]), ("x-scss", ["scss"]), ("x-setext", ["etx"]), ("x-sfv", ["sfv"]),
   ("x-suse-ymp", ["ymp"]), ("x-toml", ["toml"]), ("x-uuencode", ["uu"]), ("x-vcard", ["vcf"]),
   ("x-yaml", ["yaml", "yml"]),
   ("xml", ["addin", "disco", "dll.config", "dtd", "dtsconfig", "exe.config", "mno",
     "ssisdeploymentmanifest", "vml", "vsct", "vsixlangpack", "vsixmanifest", "vssettings",
     "vstemplate", "wsdl", "xml", "xrm-ms", "xsd", "xsf", "xsl", "xslt"])]

/-- Moving images. -/
def video : List (String × List String) :=
  [("3gpp", ["3gp", "3gpp"]), ("3gpp2", ["3g2", "3gp2"]), ("annodex", ["axv"]), ("divx", ["divx"]),
   ("h261", ["h261"]), ("h263", ["h263"]), ("h264", ["h264"]), ("jpeg", ["jpgv"]),
   ("jpm", ["jpgm"]), ("mj2", ["mj2", "mjp2"]), ("mp4", ["f4v", "mp4", "mp4v", "mpg4"]),
   ("mpeg", ["m1v", "m2v", "mod", "mp2", "mp2v", "mpa", "mpe", "mpeg", "mpg", "mpv2", "vbk"]),
   ("ogg", ["ogv"]), ("quicktime", ["mov", "mqv", "qt"]), ("vnd.dece.hd", ["uvh", "uvvh"]),
   ("vnd.dece.mobile", ["uvm", "uvvm"]), ("vnd.dece.pd", ["uvp", "uvvp"]),
   ("vnd.dece.sd", ["uvs", "uvvs"]), ("vnd.dece.video", ["uvv", "uvvv"]),
   ("vnd.dlna.mpeg-tts", ["m2t", "m2ts", "mts", "ts", "tts"]), ("vnd.dvb.file", ["dvb"]),
   ("vnd.fvt", ["fvt"]), ("vnd.mpegurl", ["m4u", "mxu"]), ("vnd.ms-playready.media.pyv", ["pyv"]),
   ("vnd.uvvu.mp4", ["uvu", "uvvu"]), ("vnd.vivo", ["viv"]), ("webm", ["webm"]),
   ("x-dv", ["dif", "dv"]), ("x-fli", ["fli"]), ("x-flv", ["flv"]), ("x-ivf", ["ivf"]),
   ("x-la-asf", ["lsf", "lsx"]), ("x-m4v", ["m4v"]), ("x-matroska", ["mk3d", "mks", "mkv"]),
   ("x-mng", ["mng"]), ("x-ms-asf", ["asf", "asr", "asx", "nsc"]), ("x-ms-vob", ["vob"]),
   ("x-ms-wm", ["wm"]), ("x-ms-wmp", ["wmp"]), ("x-ms-wmv", ["wmv"]), ("x-ms-wmx", ["wmx"]),
   ("x-ms-wvx", ["wvx"]), ("x-msvideo", ["avi"]), ("x-sgi-movie", ["movie"]), ("x-smv", ["smv"])]

/-- Conferences. -/
def conference : List (String × List String) :=
  [("x-cooltalk", ["ice"])]

/-- Worlds. -/
def world : List (String × List String) :=
  [("x-vrml", ["flr", "wrl", "wrz", "xaf", "xof"])]

/-- The families, each with its subtypes and the endings of their files. -/
def families : List (String × List (String × List String)) :=
  [("application", application),
   ("audio", audio),
   ("chemical", chemical),
   ("drawing", drawing),
   ("font", font),
   ("image", image),
   ("message", message),
   ("model", model),
   ("text", text),
   ("video", video),
   ("x-conference", conference),
   ("x-world", world)]

end Rearrangement.MediaType.Endings

namespace Rearrangement.MediaType

/-! ## The type of a file -/

/-- The small letters that a character stands for.  Some characters outside the Latin letters of
ASCII stand for such letters as well: the long s, the sign of the kelvin, the sharp s and the joined
letters. -/
def fold (c : Char) : List Char :=
  match c with
  | '\u017F' => ['s']
  | '\u212A' => ['k']
  | '\u00DF' | '\u1E9E' => ['s', 's']
  | '\uFB00' => ['f', 'f']
  | '\uFB01' => ['f', 'i']
  | '\uFB02' => ['f', 'l']
  | '\uFB03' => ['f', 'f', 'i']
  | '\uFB04' => ['f', 'f', 'l']
  | '\uFB05' | '\uFB06' => ['s', 't']
  | c => [c.toLower]

/-- What follows the last dot of a name, if the name does not begin with that dot. -/
def ending? (name : String) : Option String :=
  let cs := name.toList.reverse
  match cs.dropWhile (· ≠ '.') with
  | _ :: _ :: _ => some (String.ofList (cs.takeWhile (· ≠ '.')).reverse)
  | _ => none

/-- The type that an ending stands for, if it is known. -/
def ofEnding? (ending : String) : Option String :=
  let folded := String.ofList (ending.toList.flatMap fold)
  Endings.families.findSome? fun (family, subtypes) =>
    (subtypes.find? (·.2.contains folded)).map fun subtype => family ++ "/" ++ subtype.1

/-- The type of data that is only known to be bytes. -/
def bytes : String := "application/octet-stream"

/-- The type of a file by its name. -/
def ofName (name : String) : String := ((ending? name).bind ofEnding?).getD bytes

end Rearrangement.MediaType
